import L10nLint.Unicode.RangeTable

/-!
# Grapheme cluster break data

The property `Grapheme_Cluster_Break` of UAX #29, with `Extended_Pictographic` folded in as a
class of its own (no pictographic character has another break class), and the property
`Indic_Conjunct_Break`, which lets a virama join two consonants of one of six Indic scripts
into one cluster.

`Indic_Conjunct_Break` is derived as the standard derives it: a virama of Bengali,
Devanagari, Gujarati, Malayalam, Oriya or Telugu is a linker, a consonant of those scripts is
a consonant, and an extending character with a non-zero combining class, or the zero-width
joiner, is an extender.
-/

namespace L10nLint.Unicode

/-- The classes that the cluster rules tell apart. -/
inductive BreakClass where
  | cr | lf | control | extend | zwj | regionalIndicator | prepend | spacingMark
  | hangulL | hangulV | hangulT | hangulLV | hangulLVT | pictographic | other
  deriving DecidableEq, Repr, Inhabited

/-- Reads a class token of the break table. -/
def BreakClass.ofToken : String → Option BreakClass
  | "cr" => some .cr
  | "lf" => some .lf
  | "control" => some .control
  | "extend" => some .extend
  | "zwj" => some .zwj
  | "ri" => some .regionalIndicator
  | "prepend" => some .prepend
  | "spacingmark" => some .spacingMark
  | "l" => some .hangulL
  | "v" => some .hangulV
  | "t" => some .hangulT
  | "lv" => some .hangulLV
  | "lvt" => some .hangulLVT
  | "pict" => some .pictographic
  | _ => none

/-- The values of `Indic_Conjunct_Break` other than `None`. -/
inductive ConjunctClass where
  | consonant | linker | extend | none
  deriving DecidableEq, Repr, Inhabited

/-- Reads a token of the conjunct table. -/
def ConjunctClass.ofToken : String → Option ConjunctClass
  | "consonant" => some .consonant
  | "linker" => some .linker
  | "extend" => some .extend
  | _ => none

/-- Ranges of the break classes other than `other`. -/
def breakClassText : String :=
  String.join [
    "0,9,control;a,a,lf;b,c,control;d,d,cr;e,1f,control;7f,9f,control;a9,a9,pict;ad,ad,control;ae,ae,pict;300,36f,extend;483,489,extend;591,5bd,extend;5bf,5bf,extend;5c1,5c2,extend;5c4,5c5,extend;5c7,5c7,extend;600,605,prepend;610,61a,extend;61c,61c,control;64b,65f,extend;670,670,extend;6d6,6dc,extend;6dd,6dd,prepend;6df,6e4,extend;6e7,6e8,extend;6ea,6ed,extend;70f,70f,prepend;711,711,extend;730,74a,extend;7a6,7b0,extend;7eb,7f3,extend;7fd,7fd,extend;816,819,extend;81b,823,extend;825,827,extend;829,82d,extend;859,85b,extend;890,891,prepend;898,89f,extend;8ca,8e1,extend;8e2,8e2,prepend;8e3,902,extend;903,903,spacingmark;93a,93a,extend;93b,93b,spacingmark;93c,93c,extend;93e,940,spacingmark;941,948,extend;949,94c,spacingmark;94d,94d,extend;94e,94f,spacingmark;951,957,extend;962,963,extend;981,981,extend;982,983,spacingmark;9bc,9bc,extend;9be,9be,extend;9bf,9c0,spacingmark;9c1,9c4,extend;9c7,9c8,spacingmark;9cb,9cc,spacingmark;9cd,9cd,extend;9d7,9d7,extend;9e2,9e3,extend;9fe,9fe,extend;a01,a02,",
    "extend;a03,a03,spacingmark;a3c,a3c,extend;a3e,a40,spacingmark;a41,a42,extend;a47,a48,extend;a4b,a4d,extend;a51,a51,extend;a70,a71,extend;a75,a75,extend;a81,a82,extend;a83,a83,spacingmark;abc,abc,extend;abe,ac0,spacingmark;ac1,ac5,extend;ac7,ac8,extend;ac9,ac9,spacingmark;acb,acc,spacingmark;acd,acd,extend;ae2,ae3,extend;afa,aff,extend;b01,b01,extend;b02,b03,spacingmark;b3c,b3c,extend;b3e,b3f,extend;b40,b40,spacingmark;b41,b44,extend;b47,b48,spacingmark;b4b,b4c,spacingmark;b4d,b4d,extend;b55,b57,extend;b62,b63,extend;b82,b82,extend;bbe,bbe,extend;bbf,bbf,spacingmark;bc0,bc0,extend;bc1,bc2,spacingmark;bc6,bc8,spacingmark;bca,bcc,spacingmark;bcd,bcd,extend;bd7,bd7,extend;c00,c00,extend;c01,c03,spacingmark;c04,c04,extend;c3c,c3c,extend;c3e,c40,extend;c41,c44,spacingmark;c46,c48,extend;c4a,c4d,extend;c55,c56,extend;c62,c63,extend;c81,c81,extend;c82,c83,spacingmark;cbc,cbc,extend;cbe,cbe,spacingmark;cbf,cbf,extend;cc0,cc1,spacingmark;cc2,cc2,extend;cc3,cc4,spacingmark;cc6,cc6,extend;cc7,cc8,",
    "spacingmark;cca,ccb,spacingmark;ccc,ccd,extend;cd5,cd6,extend;ce2,ce3,extend;cf3,cf3,spacingmark;d00,d01,extend;d02,d03,spacingmark;d3b,d3c,extend;d3e,d3e,extend;d3f,d40,spacingmark;d41,d44,extend;d46,d48,spacingmark;d4a,d4c,spacingmark;d4d,d4d,extend;d4e,d4e,prepend;d57,d57,extend;d62,d63,extend;d81,d81,extend;d82,d83,spacingmark;dca,dca,extend;dcf,dcf,extend;dd0,dd1,spacingmark;dd2,dd4,extend;dd6,dd6,extend;dd8,dde,spacingmark;ddf,ddf,extend;df2,df3,spacingmark;e31,e31,extend;e33,e33,spacingmark;e34,e3a,extend;e47,e4e,extend;eb1,eb1,extend;eb3,eb3,spacingmark;eb4,ebc,extend;ec8,ece,extend;f18,f19,extend;f35,f35,extend;f37,f37,extend;f39,f39,extend;f3e,f3f,spacingmark;f71,f7e,extend;f7f,f7f,spacingmark;f80,f84,extend;f86,f87,extend;f8d,f97,extend;f99,fbc,extend;fc6,fc6,extend;102d,1030,extend;1031,1031,spacingmark;1032,1037,extend;1039,103a,extend;103b,103c,spacingmark;103d,103e,extend;1056,1057,spacingmark;1058,1059,extend;105e,1060,extend;1071,1074,extend;1082,1082,extend;1084,1084,",
    "spacingmark;1085,1086,extend;108d,108d,extend;109d,109d,extend;1100,115f,l;1160,11a7,v;11a8,11ff,t;135d,135f,extend;1712,1714,extend;1715,1715,spacingmark;1732,1733,extend;1734,1734,spacingmark;1752,1753,extend;1772,1773,extend;17b4,17b5,extend;17b6,17b6,spacingmark;17b7,17bd,extend;17be,17c5,spacingmark;17c6,17c6,extend;17c7,17c8,spacingmark;17c9,17d3,extend;17dd,17dd,extend;180b,180d,extend;180e,180e,control;180f,180f,extend;1885,1886,extend;18a9,18a9,extend;1920,1922,extend;1923,1926,spacingmark;1927,1928,extend;1929,192b,spacingmark;1930,1931,spacingmark;1932,1932,extend;1933,1938,spacingmark;1939,193b,extend;1a17,1a18,extend;1a19,1a1a,spacingmark;1a1b,1a1b,extend;1a55,1a55,spacingmark;1a56,1a56,extend;1a57,1a57,spacingmark;1a58,1a5e,extend;1a60,1a60,extend;1a62,1a62,extend;1a65,1a6c,extend;1a6d,1a72,spacingmark;1a73,1a7c,extend;1a7f,1a7f,extend;1ab0,1ace,extend;1b00,1b03,extend;1b04,1b04,spacingmark;1b34,1b3a,extend;1b3b,1b3b,spacingmark;1b3c,1b3c,extend;1b3d,1b41,spacingmark;1b42",
    ",1b42,extend;1b43,1b44,spacingmark;1b6b,1b73,extend;1b80,1b81,extend;1b82,1b82,spacingmark;1ba1,1ba1,spacingmark;1ba2,1ba5,extend;1ba6,1ba7,spacingmark;1ba8,1ba9,extend;1baa,1baa,spacingmark;1bab,1bad,extend;1be6,1be6,extend;1be7,1be7,spacingmark;1be8,1be9,extend;1bea,1bec,spacingmark;1bed,1bed,extend;1bee,1bee,spacingmark;1bef,1bf1,extend;1bf2,1bf3,spacingmark;1c24,1c2b,spacingmark;1c2c,1c33,extend;1c34,1c35,spacingmark;1c36,1c37,extend;1cd0,1cd2,extend;1cd4,1ce0,extend;1ce1,1ce1,spacingmark;1ce2,1ce8,extend;1ced,1ced,extend;1cf4,1cf4,extend;1cf7,1cf7,spacingmark;1cf8,1cf9,extend;1dc0,1dff,extend;200b,200b,control;200c,200c,extend;200d,200d,zwj;200e,200f,control;2028,202e,control;203c,203c,pict;2049,2049,pict;2060,206f,control;20d0,20f0,extend;2122,2122,pict;2139,2139,pict;2194,2199,pict;21a9,21aa,pict;231a,231b,pict;2328,2328,pict;2388,2388,pict;23cf,23cf,pict;23e9,23f3,pict;23f8,23fa,pict;24c2,24c2,pict;25aa,25ab,pict;25b6,25b6,pict;25c0,25c0,pict;25fb,25fe,pict;2600,2605,pict;2607,",
    "2612,pict;2614,2685,pict;2690,2705,pict;2708,2712,pict;2714,2714,pict;2716,2716,pict;271d,271d,pict;2721,2721,pict;2728,2728,pict;2733,2734,pict;2744,2744,pict;2747,2747,pict;274c,274c,pict;274e,274e,pict;2753,2755,pict;2757,2757,pict;2763,2767,pict;2795,2797,pict;27a1,27a1,pict;27b0,27b0,pict;27bf,27bf,pict;2934,2935,pict;2b05,2b07,pict;2b1b,2b1c,pict;2b50,2b50,pict;2b55,2b55,pict;2cef,2cf1,extend;2d7f,2d7f,extend;2de0,2dff,extend;302a,302f,extend;3030,3030,pict;303d,303d,pict;3099,309a,extend;3297,3297,pict;3299,3299,pict;a66f,a672,extend;a674,a67d,extend;a69e,a69f,extend;a6f0,a6f1,extend;a802,a802,extend;a806,a806,extend;a80b,a80b,extend;a823,a824,spacingmark;a825,a826,extend;a827,a827,spacingmark;a82c,a82c,extend;a880,a881,spacingmark;a8b4,a8c3,spacingmark;a8c4,a8c5,extend;a8e0,a8f1,extend;a8ff,a8ff,extend;a926,a92d,extend;a947,a951,extend;a952,a953,spacingmark;a960,a97c,l;a980,a982,extend;a983,a983,spacingmark;a9b3,a9b3,extend;a9b4,a9b5,spacingmark;a9b6,a9b9,extend;a9ba,a9bb,spaci",
    "ngmark;a9bc,a9bd,extend;a9be,a9c0,spacingmark;a9e5,a9e5,extend;aa29,aa2e,extend;aa2f,aa30,spacingmark;aa31,aa32,extend;aa33,aa34,spacingmark;aa35,aa36,extend;aa43,aa43,extend;aa4c,aa4c,extend;aa4d,aa4d,spacingmark;aa7c,aa7c,extend;aab0,aab0,extend;aab2,aab4,extend;aab7,aab8,extend;aabe,aabf,extend;aac1,aac1,extend;aaeb,aaeb,spacingmark;aaec,aaed,extend;aaee,aaef,spacingmark;aaf5,aaf5,spacingmark;aaf6,aaf6,extend;abe3,abe4,spacingmark;abe5,abe5,extend;abe6,abe7,spacingmark;abe8,abe8,extend;abe9,abea,spacingmark;abec,abec,spacingmark;abed,abed,extend;ac00,ac00,lv;ac01,ac1b,lvt;ac1c,ac1c,lv;ac1d,ac37,lvt;ac38,ac38,lv;ac39,ac53,lvt;ac54,ac54,lv;ac55,ac6f,lvt;ac70,ac70,lv;ac71,ac8b,lvt;ac8c,ac8c,lv;ac8d,aca7,lvt;aca8,aca8,lv;aca9,acc3,lvt;acc4,acc4,lv;acc5,acdf,lvt;ace0,ace0,lv;ace1,acfb,lvt;acfc,acfc,lv;acfd,ad17,lvt;ad18,ad18,lv;ad19,ad33,lvt;ad34,ad34,lv;ad35,ad4f,lvt;ad50,ad50,lv;ad51,ad6b,lvt;ad6c,ad6c,lv;ad6d,ad87,lvt;ad88,ad88,lv;ad89,ada3,lvt;ada4,ada4,lv;ada5,adbf,lvt;adc0,adc0,lv;",
    "adc1,addb,lvt;addc,addc,lv;addd,adf7,lvt;adf8,adf8,lv;adf9,ae13,lvt;ae14,ae14,lv;ae15,ae2f,lvt;ae30,ae30,lv;ae31,ae4b,lvt;ae4c,ae4c,lv;ae4d,ae67,lvt;ae68,ae68,lv;ae69,ae83,lvt;ae84,ae84,lv;ae85,ae9f,lvt;aea0,aea0,lv;aea1,aebb,lvt;aebc,aebc,lv;aebd,aed7,lvt;aed8,aed8,lv;aed9,aef3,lvt;aef4,aef4,lv;aef5,af0f,lvt;af10,af10,lv;af11,af2b,lvt;af2c,af2c,lv;af2d,af47,lvt;af48,af48,lv;af49,af63,lvt;af64,af64,lv;af65,af7f,lvt;af80,af80,lv;af81,af9b,lvt;af9c,af9c,lv;af9d,afb7,lvt;afb8,afb8,lv;afb9,afd3,lvt;afd4,afd4,lv;afd5,afef,lvt;aff0,aff0,lv;aff1,b00b,lvt;b00c,b00c,lv;b00d,b027,lvt;b028,b028,lv;b029,b043,lvt;b044,b044,lv;b045,b05f,lvt;b060,b060,lv;b061,b07b,lvt;b07c,b07c,lv;b07d,b097,lvt;b098,b098,lv;b099,b0b3,lvt;b0b4,b0b4,lv;b0b5,b0cf,lvt;b0d0,b0d0,lv;b0d1,b0eb,lvt;b0ec,b0ec,lv;b0ed,b107,lvt;b108,b108,lv;b109,b123,lvt;b124,b124,lv;b125,b13f,lvt;b140,b140,lv;b141,b15b,lvt;b15c,b15c,lv;b15d,b177,lvt;b178,b178,lv;b179,b193,lvt;b194,b194,lv;b195,b1af,lvt;b1b0,b1b0,lv;b1b1,b1cb,lvt;b1cc,b1cc,lv;b",
    "1cd,b1e7,lvt;b1e8,b1e8,lv;b1e9,b203,lvt;b204,b204,lv;b205,b21f,lvt;b220,b220,lv;b221,b23b,lvt;b23c,b23c,lv;b23d,b257,lvt;b258,b258,lv;b259,b273,lvt;b274,b274,lv;b275,b28f,lvt;b290,b290,lv;b291,b2ab,lvt;b2ac,b2ac,lv;b2ad,b2c7,lvt;b2c8,b2c8,lv;b2c9,b2e3,lvt;b2e4,b2e4,lv;b2e5,b2ff,lvt;b300,b300,lv;b301,b31b,lvt;b31c,b31c,lv;b31d,b337,lvt;b338,b338,lv;b339,b353,lvt;b354,b354,lv;b355,b36f,lvt;b370,b370,lv;b371,b38b,lvt;b38c,b38c,lv;b38d,b3a7,lvt;b3a8,b3a8,lv;b3a9,b3c3,lvt;b3c4,b3c4,lv;b3c5,b3df,lvt;b3e0,b3e0,lv;b3e1,b3fb,lvt;b3fc,b3fc,lv;b3fd,b417,lvt;b418,b418,lv;b419,b433,lvt;b434,b434,lv;b435,b44f,lvt;b450,b450,lv;b451,b46b,lvt;b46c,b46c,lv;b46d,b487,lvt;b488,b488,lv;b489,b4a3,lvt;b4a4,b4a4,lv;b4a5,b4bf,lvt;b4c0,b4c0,lv;b4c1,b4db,lvt;b4dc,b4dc,lv;b4dd,b4f7,lvt;b4f8,b4f8,lv;b4f9,b513,lvt;b514,b514,lv;b515,b52f,lvt;b530,b530,lv;b531,b54b,lvt;b54c,b54c,lv;b54d,b567,lvt;b568,b568,lv;b569,b583,lvt;b584,b584,lv;b585,b59f,lvt;b5a0,b5a0,lv;b5a1,b5bb,lvt;b5bc,b5bc,lv;b5bd,b5d7,lvt;b5d8,b5d8,lv;b5",
    "d9,b5f3,lvt;b5f4,b5f4,lv;b5f5,b60f,lvt;b610,b610,lv;b611,b62b,lvt;b62c,b62c,lv;b62d,b647,lvt;b648,b648,lv;b649,b663,lvt;b664,b664,lv;b665,b67f,lvt;b680,b680,lv;b681,b69b,lvt;b69c,b69c,lv;b69d,b6b7,lvt;b6b8,b6b8,lv;b6b9,b6d3,lvt;b6d4,b6d4,lv;b6d5,b6ef,lvt;b6f0,b6f0,lv;b6f1,b70b,lvt;b70c,b70c,lv;b70d,b727,lvt;b728,b728,lv;b729,b743,lvt;b744,b744,lv;b745,b75f,lvt;b760,b760,lv;b761,b77b,lvt;b77c,b77c,lv;b77d,b797,lvt;b798,b798,lv;b799,b7b3,lvt;b7b4,b7b4,lv;b7b5,b7cf,lvt;b7d0,b7d0,lv;b7d1,b7eb,lvt;b7ec,b7ec,lv;b7ed,b807,lvt;b808,b808,lv;b809,b823,lvt;b824,b824,lv;b825,b83f,lvt;b840,b840,lv;b841,b85b,lvt;b85c,b85c,lv;b85d,b877,lvt;b878,b878,lv;b879,b893,lvt;b894,b894,lv;b895,b8af,lvt;b8b0,b8b0,lv;b8b1,b8cb,lvt;b8cc,b8cc,lv;b8cd,b8e7,lvt;b8e8,b8e8,lv;b8e9,b903,lvt;b904,b904,lv;b905,b91f,lvt;b920,b920,lv;b921,b93b,lvt;b93c,b93c,lv;b93d,b957,lvt;b958,b958,lv;b959,b973,lvt;b974,b974,lv;b975,b98f,lvt;b990,b990,lv;b991,b9ab,lvt;b9ac,b9ac,lv;b9ad,b9c7,lvt;b9c8,b9c8,lv;b9c9,b9e3,lvt;b9e4,b9e4,lv;b9e",
    "5,b9ff,lvt;ba00,ba00,lv;ba01,ba1b,lvt;ba1c,ba1c,lv;ba1d,ba37,lvt;ba38,ba38,lv;ba39,ba53,lvt;ba54,ba54,lv;ba55,ba6f,lvt;ba70,ba70,lv;ba71,ba8b,lvt;ba8c,ba8c,lv;ba8d,baa7,lvt;baa8,baa8,lv;baa9,bac3,lvt;bac4,bac4,lv;bac5,badf,lvt;bae0,bae0,lv;bae1,bafb,lvt;bafc,bafc,lv;bafd,bb17,lvt;bb18,bb18,lv;bb19,bb33,lvt;bb34,bb34,lv;bb35,bb4f,lvt;bb50,bb50,lv;bb51,bb6b,lvt;bb6c,bb6c,lv;bb6d,bb87,lvt;bb88,bb88,lv;bb89,bba3,lvt;bba4,bba4,lv;bba5,bbbf,lvt;bbc0,bbc0,lv;bbc1,bbdb,lvt;bbdc,bbdc,lv;bbdd,bbf7,lvt;bbf8,bbf8,lv;bbf9,bc13,lvt;bc14,bc14,lv;bc15,bc2f,lvt;bc30,bc30,lv;bc31,bc4b,lvt;bc4c,bc4c,lv;bc4d,bc67,lvt;bc68,bc68,lv;bc69,bc83,lvt;bc84,bc84,lv;bc85,bc9f,lvt;bca0,bca0,lv;bca1,bcbb,lvt;bcbc,bcbc,lv;bcbd,bcd7,lvt;bcd8,bcd8,lv;bcd9,bcf3,lvt;bcf4,bcf4,lv;bcf5,bd0f,lvt;bd10,bd10,lv;bd11,bd2b,lvt;bd2c,bd2c,lv;bd2d,bd47,lvt;bd48,bd48,lv;bd49,bd63,lvt;bd64,bd64,lv;bd65,bd7f,lvt;bd80,bd80,lv;bd81,bd9b,lvt;bd9c,bd9c,lv;bd9d,bdb7,lvt;bdb8,bdb8,lv;bdb9,bdd3,lvt;bdd4,bdd4,lv;bdd5,bdef,lvt;bdf0,bdf0,lv;bdf1",
    ",be0b,lvt;be0c,be0c,lv;be0d,be27,lvt;be28,be28,lv;be29,be43,lvt;be44,be44,lv;be45,be5f,lvt;be60,be60,lv;be61,be7b,lvt;be7c,be7c,lv;be7d,be97,lvt;be98,be98,lv;be99,beb3,lvt;beb4,beb4,lv;beb5,becf,lvt;bed0,bed0,lv;bed1,beeb,lvt;beec,beec,lv;beed,bf07,lvt;bf08,bf08,lv;bf09,bf23,lvt;bf24,bf24,lv;bf25,bf3f,lvt;bf40,bf40,lv;bf41,bf5b,lvt;bf5c,bf5c,lv;bf5d,bf77,lvt;bf78,bf78,lv;bf79,bf93,lvt;bf94,bf94,lv;bf95,bfaf,lvt;bfb0,bfb0,lv;bfb1,bfcb,lvt;bfcc,bfcc,lv;bfcd,bfe7,lvt;bfe8,bfe8,lv;bfe9,c003,lvt;c004,c004,lv;c005,c01f,lvt;c020,c020,lv;c021,c03b,lvt;c03c,c03c,lv;c03d,c057,lvt;c058,c058,lv;c059,c073,lvt;c074,c074,lv;c075,c08f,lvt;c090,c090,lv;c091,c0ab,lvt;c0ac,c0ac,lv;c0ad,c0c7,lvt;c0c8,c0c8,lv;c0c9,c0e3,lvt;c0e4,c0e4,lv;c0e5,c0ff,lvt;c100,c100,lv;c101,c11b,lvt;c11c,c11c,lv;c11d,c137,lvt;c138,c138,lv;c139,c153,lvt;c154,c154,lv;c155,c16f,lvt;c170,c170,lv;c171,c18b,lvt;c18c,c18c,lv;c18d,c1a7,lvt;c1a8,c1a8,lv;c1a9,c1c3,lvt;c1c4,c1c4,lv;c1c5,c1df,lvt;c1e0,c1e0,lv;c1e1,c1fb,lvt;c1fc,c1fc,lv;c1fd,",
    "c217,lvt;c218,c218,lv;c219,c233,lvt;c234,c234,lv;c235,c24f,lvt;c250,c250,lv;c251,c26b,lvt;c26c,c26c,lv;c26d,c287,lvt;c288,c288,lv;c289,c2a3,lvt;c2a4,c2a4,lv;c2a5,c2bf,lvt;c2c0,c2c0,lv;c2c1,c2db,lvt;c2dc,c2dc,lv;c2dd,c2f7,lvt;c2f8,c2f8,lv;c2f9,c313,lvt;c314,c314,lv;c315,c32f,lvt;c330,c330,lv;c331,c34b,lvt;c34c,c34c,lv;c34d,c367,lvt;c368,c368,lv;c369,c383,lvt;c384,c384,lv;c385,c39f,lvt;c3a0,c3a0,lv;c3a1,c3bb,lvt;c3bc,c3bc,lv;c3bd,c3d7,lvt;c3d8,c3d8,lv;c3d9,c3f3,lvt;c3f4,c3f4,lv;c3f5,c40f,lvt;c410,c410,lv;c411,c42b,lvt;c42c,c42c,lv;c42d,c447,lvt;c448,c448,lv;c449,c463,lvt;c464,c464,lv;c465,c47f,lvt;c480,c480,lv;c481,c49b,lvt;c49c,c49c,lv;c49d,c4b7,lvt;c4b8,c4b8,lv;c4b9,c4d3,lvt;c4d4,c4d4,lv;c4d5,c4ef,lvt;c4f0,c4f0,lv;c4f1,c50b,lvt;c50c,c50c,lv;c50d,c527,lvt;c528,c528,lv;c529,c543,lvt;c544,c544,lv;c545,c55f,lvt;c560,c560,lv;c561,c57b,lvt;c57c,c57c,lv;c57d,c597,lvt;c598,c598,lv;c599,c5b3,lvt;c5b4,c5b4,lv;c5b5,c5cf,lvt;c5d0,c5d0,lv;c5d1,c5eb,lvt;c5ec,c5ec,lv;c5ed,c607,lvt;c608,c608,lv;c609,c",
    "623,lvt;c624,c624,lv;c625,c63f,lvt;c640,c640,lv;c641,c65b,lvt;c65c,c65c,lv;c65d,c677,lvt;c678,c678,lv;c679,c693,lvt;c694,c694,lv;c695,c6af,lvt;c6b0,c6b0,lv;c6b1,c6cb,lvt;c6cc,c6cc,lv;c6cd,c6e7,lvt;c6e8,c6e8,lv;c6e9,c703,lvt;c704,c704,lv;c705,c71f,lvt;c720,c720,lv;c721,c73b,lvt;c73c,c73c,lv;c73d,c757,lvt;c758,c758,lv;c759,c773,lvt;c774,c774,lv;c775,c78f,lvt;c790,c790,lv;c791,c7ab,lvt;c7ac,c7ac,lv;c7ad,c7c7,lvt;c7c8,c7c8,lv;c7c9,c7e3,lvt;c7e4,c7e4,lv;c7e5,c7ff,lvt;c800,c800,lv;c801,c81b,lvt;c81c,c81c,lv;c81d,c837,lvt;c838,c838,lv;c839,c853,lvt;c854,c854,lv;c855,c86f,lvt;c870,c870,lv;c871,c88b,lvt;c88c,c88c,lv;c88d,c8a7,lvt;c8a8,c8a8,lv;c8a9,c8c3,lvt;c8c4,c8c4,lv;c8c5,c8df,lvt;c8e0,c8e0,lv;c8e1,c8fb,lvt;c8fc,c8fc,lv;c8fd,c917,lvt;c918,c918,lv;c919,c933,lvt;c934,c934,lv;c935,c94f,lvt;c950,c950,lv;c951,c96b,lvt;c96c,c96c,lv;c96d,c987,lvt;c988,c988,lv;c989,c9a3,lvt;c9a4,c9a4,lv;c9a5,c9bf,lvt;c9c0,c9c0,lv;c9c1,c9db,lvt;c9dc,c9dc,lv;c9dd,c9f7,lvt;c9f8,c9f8,lv;c9f9,ca13,lvt;ca14,ca14,lv;ca15,ca",
    "2f,lvt;ca30,ca30,lv;ca31,ca4b,lvt;ca4c,ca4c,lv;ca4d,ca67,lvt;ca68,ca68,lv;ca69,ca83,lvt;ca84,ca84,lv;ca85,ca9f,lvt;caa0,caa0,lv;caa1,cabb,lvt;cabc,cabc,lv;cabd,cad7,lvt;cad8,cad8,lv;cad9,caf3,lvt;caf4,caf4,lv;caf5,cb0f,lvt;cb10,cb10,lv;cb11,cb2b,lvt;cb2c,cb2c,lv;cb2d,cb47,lvt;cb48,cb48,lv;cb49,cb63,lvt;cb64,cb64,lv;cb65,cb7f,lvt;cb80,cb80,lv;cb81,cb9b,lvt;cb9c,cb9c,lv;cb9d,cbb7,lvt;cbb8,cbb8,lv;cbb9,cbd3,lvt;cbd4,cbd4,lv;cbd5,cbef,lvt;cbf0,cbf0,lv;cbf1,cc0b,lvt;cc0c,cc0c,lv;cc0d,cc27,lvt;cc28,cc28,lv;cc29,cc43,lvt;cc44,cc44,lv;cc45,cc5f,lvt;cc60,cc60,lv;cc61,cc7b,lvt;cc7c,cc7c,lv;cc7d,cc97,lvt;cc98,cc98,lv;cc99,ccb3,lvt;ccb4,ccb4,lv;ccb5,cccf,lvt;ccd0,ccd0,lv;ccd1,cceb,lvt;ccec,ccec,lv;cced,cd07,lvt;cd08,cd08,lv;cd09,cd23,lvt;cd24,cd24,lv;cd25,cd3f,lvt;cd40,cd40,lv;cd41,cd5b,lvt;cd5c,cd5c,lv;cd5d,cd77,lvt;cd78,cd78,lv;cd79,cd93,lvt;cd94,cd94,lv;cd95,cdaf,lvt;cdb0,cdb0,lv;cdb1,cdcb,lvt;cdcc,cdcc,lv;cdcd,cde7,lvt;cde8,cde8,lv;cde9,ce03,lvt;ce04,ce04,lv;ce05,ce1f,lvt;ce20,ce20,lv;ce21,ce3",
    "b,lvt;ce3c,ce3c,lv;ce3d,ce57,lvt;ce58,ce58,lv;ce59,ce73,lvt;ce74,ce74,lv;ce75,ce8f,lvt;ce90,ce90,lv;ce91,ceab,lvt;ceac,ceac,lv;cead,cec7,lvt;cec8,cec8,lv;cec9,cee3,lvt;cee4,cee4,lv;cee5,ceff,lvt;cf00,cf00,lv;cf01,cf1b,lvt;cf1c,cf1c,lv;cf1d,cf37,lvt;cf38,cf38,lv;cf39,cf53,lvt;cf54,cf54,lv;cf55,cf6f,lvt;cf70,cf70,lv;cf71,cf8b,lvt;cf8c,cf8c,lv;cf8d,cfa7,lvt;cfa8,cfa8,lv;cfa9,cfc3,lvt;cfc4,cfc4,lv;cfc5,cfdf,lvt;cfe0,cfe0,lv;cfe1,cffb,lvt;cffc,cffc,lv;cffd,d017,lvt;d018,d018,lv;d019,d033,lvt;d034,d034,lv;d035,d04f,lvt;d050,d050,lv;d051,d06b,lvt;d06c,d06c,lv;d06d,d087,lvt;d088,d088,lv;d089,d0a3,lvt;d0a4,d0a4,lv;d0a5,d0bf,lvt;d0c0,d0c0,lv;d0c1,d0db,lvt;d0dc,d0dc,lv;d0dd,d0f7,lvt;d0f8,d0f8,lv;d0f9,d113,lvt;d114,d114,lv;d115,d12f,lvt;d130,d130,lv;d131,d14b,lvt;d14c,d14c,lv;d14d,d167,lvt;d168,d168,lv;d169,d183,lvt;d184,d184,lv;d185,d19f,lvt;d1a0,d1a0,lv;d1a1,d1bb,lvt;d1bc,d1bc,lv;d1bd,d1d7,lvt;d1d8,d1d8,lv;d1d9,d1f3,lvt;d1f4,d1f4,lv;d1f5,d20f,lvt;d210,d210,lv;d211,d22b,lvt;d22c,d22c,lv;d22d,d247",
    ",lvt;d248,d248,lv;d249,d263,lvt;d264,d264,lv;d265,d27f,lvt;d280,d280,lv;d281,d29b,lvt;d29c,d29c,lv;d29d,d2b7,lvt;d2b8,d2b8,lv;d2b9,d2d3,lvt;d2d4,d2d4,lv;d2d5,d2ef,lvt;d2f0,d2f0,lv;d2f1,d30b,lvt;d30c,d30c,lv;d30d,d327,lvt;d328,d328,lv;d329,d343,lvt;d344,d344,lv;d345,d35f,lvt;d360,d360,lv;d361,d37b,lvt;d37c,d37c,lv;d37d,d397,lvt;d398,d398,lv;d399,d3b3,lvt;d3b4,d3b4,lv;d3b5,d3cf,lvt;d3d0,d3d0,lv;d3d1,d3eb,lvt;d3ec,d3ec,lv;d3ed,d407,lvt;d408,d408,lv;d409,d423,lvt;d424,d424,lv;d425,d43f,lvt;d440,d440,lv;d441,d45b,lvt;d45c,d45c,lv;d45d,d477,lvt;d478,d478,lv;d479,d493,lvt;d494,d494,lv;d495,d4af,lvt;d4b0,d4b0,lv;d4b1,d4cb,lvt;d4cc,d4cc,lv;d4cd,d4e7,lvt;d4e8,d4e8,lv;d4e9,d503,lvt;d504,d504,lv;d505,d51f,lvt;d520,d520,lv;d521,d53b,lvt;d53c,d53c,lv;d53d,d557,lvt;d558,d558,lv;d559,d573,lvt;d574,d574,lv;d575,d58f,lvt;d590,d590,lv;d591,d5ab,lvt;d5ac,d5ac,lv;d5ad,d5c7,lvt;d5c8,d5c8,lv;d5c9,d5e3,lvt;d5e4,d5e4,lv;d5e5,d5ff,lvt;d600,d600,lv;d601,d61b,lvt;d61c,d61c,lv;d61d,d637,lvt;d638,d638,lv;d639,d653,",
    "lvt;d654,d654,lv;d655,d66f,lvt;d670,d670,lv;d671,d68b,lvt;d68c,d68c,lv;d68d,d6a7,lvt;d6a8,d6a8,lv;d6a9,d6c3,lvt;d6c4,d6c4,lv;d6c5,d6df,lvt;d6e0,d6e0,lv;d6e1,d6fb,lvt;d6fc,d6fc,lv;d6fd,d717,lvt;d718,d718,lv;d719,d733,lvt;d734,d734,lv;d735,d74f,lvt;d750,d750,lv;d751,d76b,lvt;d76c,d76c,lv;d76d,d787,lvt;d788,d788,lv;d789,d7a3,lvt;d7b0,d7c6,v;d7cb,d7fb,t;fb1e,fb1e,extend;fe00,fe0f,extend;fe20,fe2f,extend;feff,feff,control;ff9e,ff9f,extend;fff0,fffb,control;101fd,101fd,extend;102e0,102e0,extend;10376,1037a,extend;10a01,10a03,extend;10a05,10a06,extend;10a0c,10a0f,extend;10a38,10a3a,extend;10a3f,10a3f,extend;10ae5,10ae6,extend;10d24,10d27,extend;10eab,10eac,extend;10efd,10eff,extend;10f46,10f50,extend;10f82,10f85,extend;11000,11000,spacingmark;11001,11001,extend;11002,11002,spacingmark;11038,11046,extend;11070,11070,extend;11073,11074,extend;1107f,11081,extend;11082,11082,spacingmark;110b0,110b2,spacingmark;110b3,110b6,extend;110b7,110b8,spacingmark;110b9,110ba,extend;110bd,110bd,prepend;110c2",
    ",110c2,extend;110cd,110cd,prepend;11100,11102,extend;11127,1112b,extend;1112c,1112c,spacingmark;1112d,11134,extend;11145,11146,spacingmark;11173,11173,extend;11180,11181,extend;11182,11182,spacingmark;111b3,111b5,spacingmark;111b6,111be,extend;111bf,111c0,spacingmark;111c2,111c3,prepend;111c9,111cc,extend;111ce,111ce,spacingmark;111cf,111cf,extend;1122c,1122e,spacingmark;1122f,11231,extend;11232,11233,spacingmark;11234,11234,extend;11235,11235,spacingmark;11236,11237,extend;1123e,1123e,extend;11241,11241,extend;112df,112df,extend;112e0,112e2,spacingmark;112e3,112ea,extend;11300,11301,extend;11302,11303,spacingmark;1133b,1133c,extend;1133e,1133e,extend;1133f,1133f,spacingmark;11340,11340,extend;11341,11344,spacingmark;11347,11348,spacingmark;1134b,1134d,spacingmark;11357,11357,extend;11362,11363,spacingmark;11366,1136c,extend;11370,11374,extend;11435,11437,spacingmark;11438,1143f,extend;11440,11441,spacingmark;11442,11444,extend;11445,11445,spacingmark;11446,11446,extend;1145e,1145e,ext",
    "end;114b0,114b0,extend;114b1,114b2,spacingmark;114b3,114b8,extend;114b9,114b9,spacingmark;114ba,114ba,extend;114bb,114bc,spacingmark;114bd,114bd,extend;114be,114be,spacingmark;114bf,114c0,extend;114c1,114c1,spacingmark;114c2,114c3,extend;115af,115af,extend;115b0,115b1,spacingmark;115b2,115b5,extend;115b8,115bb,spacingmark;115bc,115bd,extend;115be,115be,spacingmark;115bf,115c0,extend;115dc,115dd,extend;11630,11632,spacingmark;11633,1163a,extend;1163b,1163c,spacingmark;1163d,1163d,extend;1163e,1163e,spacingmark;1163f,11640,extend;116ab,116ab,extend;116ac,116ac,spacingmark;116ad,116ad,extend;116ae,116af,spacingmark;116b0,116b5,extend;116b6,116b6,spacingmark;116b7,116b7,extend;1171d,1171f,extend;11722,11725,extend;11726,11726,spacingmark;11727,1172b,extend;1182c,1182e,spacingmark;1182f,11837,extend;11838,11838,spacingmark;11839,1183a,extend;11930,11930,extend;11931,11935,spacingmark;11937,11938,spacingmark;1193b,1193c,extend;1193d,1193d,spacingmark;1193e,1193e,extend;1193f,1193f,prepend;11",
    "940,11940,spacingmark;11941,11941,prepend;11942,11942,spacingmark;11943,11943,extend;119d1,119d3,spacingmark;119d4,119d7,extend;119da,119db,extend;119dc,119df,spacingmark;119e0,119e0,extend;119e4,119e4,spacingmark;11a01,11a0a,extend;11a33,11a38,extend;11a39,11a39,spacingmark;11a3a,11a3a,prepend;11a3b,11a3e,extend;11a47,11a47,extend;11a51,11a56,extend;11a57,11a58,spacingmark;11a59,11a5b,extend;11a84,11a89,prepend;11a8a,11a96,extend;11a97,11a97,spacingmark;11a98,11a99,extend;11c2f,11c2f,spacingmark;11c30,11c36,extend;11c38,11c3d,extend;11c3e,11c3e,spacingmark;11c3f,11c3f,extend;11c92,11ca7,extend;11ca9,11ca9,spacingmark;11caa,11cb0,extend;11cb1,11cb1,spacingmark;11cb2,11cb3,extend;11cb4,11cb4,spacingmark;11cb5,11cb6,extend;11d31,11d36,extend;11d3a,11d3a,extend;11d3c,11d3d,extend;11d3f,11d45,extend;11d46,11d46,prepend;11d47,11d47,extend;11d8a,11d8e,spacingmark;11d90,11d91,extend;11d93,11d94,spacingmark;11d95,11d95,extend;11d96,11d96,spacingmark;11d97,11d97,extend;11ef3,11ef4,extend;11ef5,",
    "11ef6,spacingmark;11f00,11f01,extend;11f02,11f02,prepend;11f03,11f03,spacingmark;11f34,11f35,spacingmark;11f36,11f3a,extend;11f3e,11f3f,spacingmark;11f40,11f40,extend;11f41,11f41,spacingmark;11f42,11f42,extend;13430,1343f,control;13440,13440,extend;13447,13455,extend;16af0,16af4,extend;16b30,16b36,extend;16f4f,16f4f,extend;16f51,16f87,spacingmark;16f8f,16f92,extend;16fe4,16fe4,extend;16ff0,16ff1,spacingmark;1bc9d,1bc9e,extend;1bca0,1bca3,control;1cf00,1cf2d,extend;1cf30,1cf46,extend;1d165,1d165,extend;1d166,1d166,spacingmark;1d167,1d169,extend;1d16d,1d16d,spacingmark;1d16e,1d172,extend;1d173,1d17a,control;1d17b,1d182,extend;1d185,1d18b,extend;1d1aa,1d1ad,extend;1d242,1d244,extend;1da00,1da36,extend;1da3b,1da6c,extend;1da75,1da75,extend;1da84,1da84,extend;1da9b,1da9f,extend;1daa1,1daaf,extend;1e000,1e006,extend;1e008,1e018,extend;1e01b,1e021,extend;1e023,1e024,extend;1e026,1e02a,extend;1e08f,1e08f,extend;1e130,1e136,extend;1e2ae,1e2ae,extend;1e2ec,1e2ef,extend;1e4ec,1e4ef,extend;1e8d0,1",
    "e8d6,extend;1e944,1e94a,extend;1f000,1f0ff,pict;1f10d,1f10f,pict;1f12f,1f12f,pict;1f16c,1f171,pict;1f17e,1f17f,pict;1f18e,1f18e,pict;1f191,1f19a,pict;1f1ad,1f1e5,pict;1f1e6,1f1ff,ri;1f201,1f20f,pict;1f21a,1f21a,pict;1f22f,1f22f,pict;1f232,1f23a,pict;1f23c,1f23f,pict;1f249,1f3fa,pict;1f3fb,1f3ff,extend;1f400,1f53d,pict;1f546,1f64f,pict;1f680,1f6ff,pict;1f774,1f77f,pict;1f7d5,1f7ff,pict;1f80c,1f80f,pict;1f848,1f84f,pict;1f85a,1f85f,pict;1f888,1f88f,pict;1f8ae,1f8ff,pict;1f90c,1f93a,pict;1f93c,1f945,pict;1f947,1faff,pict;1fc00,1fffd,pict;e0000,e001f,control;e0020,e007f,extend;e0080,e00ff,control;e0100,e01ef,extend;e01f0,e0fff,control"]

/-- Ranges of the conjunct classes other than `none`. -/
def conjunctClassText : String :=
  String.join [
    "300,34e,extend;350,36f,extend;483,487,extend;591,5bd,extend;5bf,5bf,extend;5c1,5c2,extend;5c4,5c5,extend;5c7,5c7,extend;610,61a,extend;64b,65f,extend;670,670,extend;6d6,6dc,extend;6df,6e4,extend;6e7,6e8,extend;6ea,6ed,extend;711,711,extend;730,74a,extend;7eb,7f3,extend;7fd,7fd,extend;816,819,extend;81b,823,extend;825,827,extend;829,82d,extend;859,85b,extend;898,89f,extend;8ca,8e1,extend;8e3,8ff,extend;915,939,consonant;93c,93c,extend;94d,94d,linker;951,954,extend;958,95f,consonant;978,97f,consonant;995,9a8,consonant;9aa,9b0,consonant;9b2,9b2,consonant;9b6,9b9,consonant;9bc,9bc,extend;9cd,9cd,linker;9dc,9dd,consonant;9df,9df,consonant;9f0,9f1,consonant;9fe,9fe,extend;a3c,a3c,extend;a4d,a4d,extend;a95,aa8,consonant;aaa,ab0,consonant;ab2,ab3,consonant;ab5,ab9,consonant;abc,abc,extend;acd,acd,linker;af9,af9,consonant;b15,b28,consonant;b2a,b30,consonant;b32,b33,consonant;b35,b39,consonant;b3c,b3c,extend;b4d,b4d,linker;b5c,b5d,consonant;b5f,b5f,consonant;b71,b71,consonant;bcd,bcd,extend;c15,",
    "c28,consonant;c2a,c39,consonant;c3c,c3c,extend;c4d,c4d,linker;c55,c56,extend;c58,c5a,consonant;cbc,cbc,extend;ccd,ccd,extend;d15,d3a,consonant;d3b,d3c,extend;d4d,d4d,linker;dca,dca,extend;e38,e3a,extend;e48,e4b,extend;eb8,eba,extend;ec8,ecb,extend;f18,f19,extend;f35,f35,extend;f37,f37,extend;f39,f39,extend;f71,f72,extend;f74,f74,extend;f7a,f7d,extend;f80,f80,extend;f82,f84,extend;f86,f87,extend;fc6,fc6,extend;1037,1037,extend;1039,103a,extend;108d,108d,extend;135d,135f,extend;1714,1714,extend;17d2,17d2,extend;17dd,17dd,extend;18a9,18a9,extend;1939,193b,extend;1a17,1a18,extend;1a60,1a60,extend;1a75,1a7c,extend;1a7f,1a7f,extend;1ab0,1abd,extend;1abf,1ace,extend;1b34,1b34,extend;1b6b,1b73,extend;1bab,1bab,extend;1be6,1be6,extend;1c37,1c37,extend;1cd0,1cd2,extend;1cd4,1ce0,extend;1ce2,1ce8,extend;1ced,1ced,extend;1cf4,1cf4,extend;1cf8,1cf9,extend;1dc0,1dff,extend;200d,200d,extend;20d0,20dc,extend;20e1,20e1,extend;20e5,20f0,extend;2cef,2cf1,extend;2d7f,2d7f,extend;2de0,2dff,extend;302a,302f",
    ",extend;3099,309a,extend;a66f,a66f,extend;a674,a67d,extend;a69e,a69f,extend;a6f0,a6f1,extend;a806,a806,extend;a82c,a82c,extend;a8c4,a8c4,extend;a8e0,a8f1,extend;a92b,a92d,extend;a9b3,a9b3,extend;aab0,aab0,extend;aab2,aab4,extend;aab7,aab8,extend;aabe,aabf,extend;aac1,aac1,extend;aaf6,aaf6,extend;abed,abed,extend;fb1e,fb1e,extend;fe20,fe2f,extend;101fd,101fd,extend;102e0,102e0,extend;10376,1037a,extend;10a0d,10a0d,extend;10a0f,10a0f,extend;10a38,10a3a,extend;10a3f,10a3f,extend;10ae5,10ae6,extend;10d24,10d27,extend;10eab,10eac,extend;10efd,10eff,extend;10f46,10f50,extend;10f82,10f85,extend;11046,11046,extend;11070,11070,extend;1107f,1107f,extend;110b9,110ba,extend;11100,11102,extend;11133,11134,extend;11173,11173,extend;111ca,111ca,extend;11236,11236,extend;112e9,112ea,extend;1133b,1133c,extend;11366,1136c,extend;11370,11374,extend;11442,11442,extend;11446,11446,extend;1145e,1145e,extend;114c2,114c3,extend;115bf,115c0,extend;1163f,1163f,extend;116b7,116b7,extend;1172b,1172b,extend;11839,",
    "1183a,extend;1193e,1193e,extend;11943,11943,extend;119e0,119e0,extend;11a34,11a34,extend;11a47,11a47,extend;11a99,11a99,extend;11c3f,11c3f,extend;11d42,11d42,extend;11d44,11d45,extend;11d97,11d97,extend;11f42,11f42,extend;16af0,16af4,extend;16b30,16b36,extend;1bc9e,1bc9e,extend;1d165,1d165,extend;1d167,1d169,extend;1d16e,1d172,extend;1d17b,1d182,extend;1d185,1d18b,extend;1d1aa,1d1ad,extend;1d242,1d244,extend;1e000,1e006,extend;1e008,1e018,extend;1e01b,1e021,extend;1e023,1e024,extend;1e026,1e02a,extend;1e08f,1e08f,extend;1e130,1e136,extend;1e2ae,1e2ae,extend;1e2ec,1e2ef,extend;1e4ec,1e4ef,extend;1e8d0,1e8d6,extend;1e944,1e94a,extend"]

/-- The break class table. -/
def breakClassTable : RangeTable BreakClass :=
  RangeTable.decode breakClassText .other .other BreakClass.ofToken

/-- The conjunct class table. -/
def conjunctClassTable : RangeTable ConjunctClass :=
  RangeTable.decode conjunctClassText .none .none ConjunctClass.ofToken

/-- The grapheme break class of a character. -/
def breakClass (c : Char) : BreakClass := breakClassTable.get c

/-- The `Indic_Conjunct_Break` value of a character. -/
def conjunctClass (c : Char) : ConjunctClass := conjunctClassTable.get c

end L10nLint.Unicode
