import L10nLint.Unicode.RangeTable

/-!
# IDNA mapping table

The mapping table of UTS #46 (Unicode IDNA Compatibility Processing): each code point is
valid, mapped to a replacement text, a deviation (kept as it is by non-transitional
processing), ignored (dropped), or disallowed. ASCII characters are all valid here; which of
them may stand in a host is decided by the host rules.
-/

namespace L10nLint.Unicode

/-- The status of a code point under UTS #46. -/
inductive IdnaStatus where
  | valid
  | mapped (replacement : List Char)
  | deviation
  | ignored
  | disallowed
  deriving DecidableEq, Repr, Inhabited

/-- Reads a status token: `x`, `i`, `d`, or `m` followed by the replacement's code points
in hexadecimal, separated by `.`. -/
def IdnaStatus.ofToken (token : String) : Option IdnaStatus :=
  match token.toList with
  | ['x'] => some .disallowed
  | ['i'] => some .ignored
  | ['d'] => some .deviation
  | ['v'] => some .valid
  | 'm' :: rest =>
    ((String.ofList rest).splitOn ".").mapM (fun h => (RangeTable.hexValue h).map Char.ofNat)
      |>.map IdnaStatus.mapped
  | _ => none

/-- Ranges of the code points that are not simply valid. -/
def idnaMappingText : String :=
  String.join [
    "41,41,m61;42,42,m62;43,43,m63;44,44,m64;45,45,m65;46,46,m66;47,47,m67;48,48,m68;49,49,m69;4a,4a,m6a;4b,4b,m6b;4c,4c,m6c;4d,4d,m6d;4e,4e,m6e;4f,4f,m6f;50,50,m70;51,51,m71;52,52,m72;53,53,m73;54,54,m74;55,55,m75;56,56,m76;57,57,m77;58,58,m78;59,59,m79;5a,5a,m7a;80,9f,x;a0,a0,m20;a8,a8,m20.308;aa,aa,m61;ad,ad,i;af,af,m20.304;b2,b2,m32;b3,b3,m33;b4,b4,m20.301;b5,b5,m3bc;b8,b8,m20.327;b9,b9,m31;ba,ba,m6f;bc,bc,m31.2044.34;bd,bd,m31.2044.32;be,be,m33.2044.34;c0,c0,me0;c1,c1,me1;c2,c2,me2;c3,c3,me3;c4,c4,me4;c5,c5,me5;c6,c6,me6;c7,c7,me7;c8,c8,me8;c9,c9,me9;ca,ca,mea;cb,cb,meb;cc,cc,mec;cd,cd,med;ce,ce,mee;cf,cf,mef;d0,d0,mf0;d1,d1,mf1;d2,d2,mf2;d3,d3,mf3;d4,d4,mf4;d5,d5,mf5;d6,d6,mf6;d8,d8,mf8;d9,d9,mf9;da,da,mfa;db,db,mfb;dc,dc,mfc;dd,dd,mfd;de,de,mfe;df,df,d;100,100,m101;102,102,m103;104,104,m105;106,106,m107;108,108,m109;10a,10a,m10b;10c,10c,m10d;10e,10e,m10f;110,110,m111;112,112,m113;114,114,m115;116,116,m117;118,118,m119;11a,11a,m11b;11c,11c,m11d;11e,11e,m11f;120,120,m121;122,122,m123;1",
    "24,124,m125;126,126,m127;128,128,m129;12a,12a,m12b;12c,12c,m12d;12e,12e,m12f;130,130,m69.307;132,133,m69.6a;134,134,m135;136,136,m137;139,139,m13a;13b,13b,m13c;13d,13d,m13e;13f,140,m6c.b7;141,141,m142;143,143,m144;145,145,m146;147,147,m148;149,149,m2bc.6e;14a,14a,m14b;14c,14c,m14d;14e,14e,m14f;150,150,m151;152,152,m153;154,154,m155;156,156,m157;158,158,m159;15a,15a,m15b;15c,15c,m15d;15e,15e,m15f;160,160,m161;162,162,m163;164,164,m165;166,166,m167;168,168,m169;16a,16a,m16b;16c,16c,m16d;16e,16e,m16f;170,170,m171;172,172,m173;174,174,m175;176,176,m177;178,178,mff;179,179,m17a;17b,17b,m17c;17d,17d,m17e;17f,17f,m73;181,181,m253;182,182,m183;184,184,m185;186,186,m254;187,187,m188;189,189,m256;18a,18a,m257;18b,18b,m18c;18e,18e,m1dd;18f,18f,m259;190,190,m25b;191,191,m192;193,193,m260;194,194,m263;196,196,m269;197,197,m268;198,198,m199;19c,19c,m26f;19d,19d,m272;19f,19f,m275;1a0,1a0,m1a1;1a2,1a2,m1a3;1a4,1a4,m1a5;1a6,1a6,m280;1a7,1a7,m1a8;1a9,1a9,m283;1ac,1ac,m1ad;1ae,1ae,m288;1af,1af,m1b0;1b1,1",
    "b1,m28a;1b2,1b2,m28b;1b3,1b3,m1b4;1b5,1b5,m1b6;1b7,1b7,m292;1b8,1b8,m1b9;1bc,1bc,m1bd;1c4,1c6,m64.17e;1c7,1c9,m6c.6a;1ca,1cc,m6e.6a;1cd,1cd,m1ce;1cf,1cf,m1d0;1d1,1d1,m1d2;1d3,1d3,m1d4;1d5,1d5,m1d6;1d7,1d7,m1d8;1d9,1d9,m1da;1db,1db,m1dc;1de,1de,m1df;1e0,1e0,m1e1;1e2,1e2,m1e3;1e4,1e4,m1e5;1e6,1e6,m1e7;1e8,1e8,m1e9;1ea,1ea,m1eb;1ec,1ec,m1ed;1ee,1ee,m1ef;1f1,1f3,m64.7a;1f4,1f4,m1f5;1f6,1f6,m195;1f7,1f7,m1bf;1f8,1f8,m1f9;1fa,1fa,m1fb;1fc,1fc,m1fd;1fe,1fe,m1ff;200,200,m201;202,202,m203;204,204,m205;206,206,m207;208,208,m209;20a,20a,m20b;20c,20c,m20d;20e,20e,m20f;210,210,m211;212,212,m213;214,214,m215;216,216,m217;218,218,m219;21a,21a,m21b;21c,21c,m21d;21e,21e,m21f;220,220,m19e;222,222,m223;224,224,m225;226,226,m227;228,228,m229;22a,22a,m22b;22c,22c,m22d;22e,22e,m22f;230,230,m231;232,232,m233;23a,23a,m2c65;23b,23b,m23c;23d,23d,m19a;23e,23e,m2c66;241,241,m242;243,243,m180;244,244,m289;245,245,m28c;246,246,m247;248,248,m249;24a,24a,m24b;24c,24c,m24d;24e,24e,m24f;2b0,2b0,m68;2b1,2b1,m266;2b2,2b2",
    ",m6a;2b3,2b3,m72;2b4,2b4,m279;2b5,2b5,m27b;2b6,2b6,m281;2b7,2b7,m77;2b8,2b8,m79;2d8,2d8,m20.306;2d9,2d9,m20.307;2da,2da,m20.30a;2db,2db,m20.328;2dc,2dc,m20.303;2dd,2dd,m20.30b;2e0,2e0,m263;2e1,2e1,m6c;2e2,2e2,m73;2e3,2e3,m78;2e4,2e4,m295;340,340,m300;341,341,m301;343,343,m313;344,344,m308.301;345,345,m3b9;34f,34f,i;370,370,m371;372,372,m373;374,374,m2b9;376,376,m377;378,379,x;37a,37a,m20.3b9;37e,37e,m3b;37f,37f,m3f3;380,383,x;384,384,m20.301;385,385,m20.308.301;386,386,m3ac;387,387,mb7;388,388,m3ad;389,389,m3ae;38a,38a,m3af;38b,38b,x;38c,38c,m3cc;38d,38d,x;38e,38e,m3cd;38f,38f,m3ce;391,391,m3b1;392,392,m3b2;393,393,m3b3;394,394,m3b4;395,395,m3b5;396,396,m3b6;397,397,m3b7;398,398,m3b8;399,399,m3b9;39a,39a,m3ba;39b,39b,m3bb;39c,39c,m3bc;39d,39d,m3bd;39e,39e,m3be;39f,39f,m3bf;3a0,3a0,m3c0;3a1,3a1,m3c1;3a2,3a2,x;3a3,3a3,m3c3;3a4,3a4,m3c4;3a5,3a5,m3c5;3a6,3a6,m3c6;3a7,3a7,m3c7;3a8,3a8,m3c8;3a9,3a9,m3c9;3aa,3aa,m3ca;3ab,3ab,m3cb;3c2,3c2,d;3cf,3cf,m3d7;3d0,3d0,m3b2;3d1,3d1,m3b8;3d2,3d2,m3c5;3",
    "d3,3d3,m3cd;3d4,3d4,m3cb;3d5,3d5,m3c6;3d6,3d6,m3c0;3d8,3d8,m3d9;3da,3da,m3db;3dc,3dc,m3dd;3de,3de,m3df;3e0,3e0,m3e1;3e2,3e2,m3e3;3e4,3e4,m3e5;3e6,3e6,m3e7;3e8,3e8,m3e9;3ea,3ea,m3eb;3ec,3ec,m3ed;3ee,3ee,m3ef;3f0,3f0,m3ba;3f1,3f1,m3c1;3f2,3f2,m3c3;3f4,3f4,m3b8;3f5,3f5,m3b5;3f7,3f7,m3f8;3f9,3f9,m3c3;3fa,3fa,m3fb;3fd,3fd,m37b;3fe,3fe,m37c;3ff,3ff,m37d;400,400,m450;401,401,m451;402,402,m452;403,403,m453;404,404,m454;405,405,m455;406,406,m456;407,407,m457;408,408,m458;409,409,m459;40a,40a,m45a;40b,40b,m45b;40c,40c,m45c;40d,40d,m45d;40e,40e,m45e;40f,40f,m45f;410,410,m430;411,411,m431;412,412,m432;413,413,m433;414,414,m434;415,415,m435;416,416,m436;417,417,m437;418,418,m438;419,419,m439;41a,41a,m43a;41b,41b,m43b;41c,41c,m43c;41d,41d,m43d;41e,41e,m43e;41f,41f,m43f;420,420,m440;421,421,m441;422,422,m442;423,423,m443;424,424,m444;425,425,m445;426,426,m446;427,427,m447;428,428,m448;429,429,m449;42a,42a,m44a;42b,42b,m44b;42c,42c,m44c;42d,42d,m44d;42e,42e,m44e;42f,42f,m44f;460,460,m461;462,462,m463;",
    "464,464,m465;466,466,m467;468,468,m469;46a,46a,m46b;46c,46c,m46d;46e,46e,m46f;470,470,m471;472,472,m473;474,474,m475;476,476,m477;478,478,m479;47a,47a,m47b;47c,47c,m47d;47e,47e,m47f;480,480,m481;48a,48a,m48b;48c,48c,m48d;48e,48e,m48f;490,490,m491;492,492,m493;494,494,m495;496,496,m497;498,498,m499;49a,49a,m49b;49c,49c,m49d;49e,49e,m49f;4a0,4a0,m4a1;4a2,4a2,m4a3;4a4,4a4,m4a5;4a6,4a6,m4a7;4a8,4a8,m4a9;4aa,4aa,m4ab;4ac,4ac,m4ad;4ae,4ae,m4af;4b0,4b0,m4b1;4b2,4b2,m4b3;4b4,4b4,m4b5;4b6,4b6,m4b7;4b8,4b8,m4b9;4ba,4ba,m4bb;4bc,4bc,m4bd;4be,4be,m4bf;4c0,4c0,m4cf;4c1,4c1,m4c2;4c3,4c3,m4c4;4c5,4c5,m4c6;4c7,4c7,m4c8;4c9,4c9,m4ca;4cb,4cb,m4cc;4cd,4cd,m4ce;4d0,4d0,m4d1;4d2,4d2,m4d3;4d4,4d4,m4d5;4d6,4d6,m4d7;4d8,4d8,m4d9;4da,4da,m4db;4dc,4dc,m4dd;4de,4de,m4df;4e0,4e0,m4e1;4e2,4e2,m4e3;4e4,4e4,m4e5;4e6,4e6,m4e7;4e8,4e8,m4e9;4ea,4ea,m4eb;4ec,4ec,m4ed;4ee,4ee,m4ef;4f0,4f0,m4f1;4f2,4f2,m4f3;4f4,4f4,m4f5;4f6,4f6,m4f7;4f8,4f8,m4f9;4fa,4fa,m4fb;4fc,4fc,m4fd;4fe,4fe,m4ff;500,500,m501;502,502,m503;504,504,m505",
    ";506,506,m507;508,508,m509;50a,50a,m50b;50c,50c,m50d;50e,50e,m50f;510,510,m511;512,512,m513;514,514,m515;516,516,m517;518,518,m519;51a,51a,m51b;51c,51c,m51d;51e,51e,m51f;520,520,m521;522,522,m523;524,524,m525;526,526,m527;528,528,m529;52a,52a,m52b;52c,52c,m52d;52e,52e,m52f;530,530,x;531,531,m561;532,532,m562;533,533,m563;534,534,m564;535,535,m565;536,536,m566;537,537,m567;538,538,m568;539,539,m569;53a,53a,m56a;53b,53b,m56b;53c,53c,m56c;53d,53d,m56d;53e,53e,m56e;53f,53f,m56f;540,540,m570;541,541,m571;542,542,m572;543,543,m573;544,544,m574;545,545,m575;546,546,m576;547,547,m577;548,548,m578;549,549,m579;54a,54a,m57a;54b,54b,m57b;54c,54c,m57c;54d,54d,m57d;54e,54e,m57e;54f,54f,m57f;550,550,m580;551,551,m581;552,552,m582;553,553,m583;554,554,m584;555,555,m585;556,556,m586;557,558,x;587,587,m565.582;58b,58c,x;590,590,x;5c8,5cf,x;5eb,5ee,x;5f5,605,x;61c,61c,x;675,675,m627.674;676,676,m648.674;677,677,m6c7.674;678,678,m64a.674;6dd,6dd,x;70e,70f,x;74b,74c,x;7b2,7bf,x;7fb,7fc,x;82e,82f,x;83f,83f",
    ",x;85c,85d,x;85f,85f,x;86b,86f,x;890,896,x;8e2,8e2,x;958,958,m915.93c;959,959,m916.93c;95a,95a,m917.93c;95b,95b,m91c.93c;95c,95c,m921.93c;95d,95d,m922.93c;95e,95e,m92b.93c;95f,95f,m92f.93c;984,984,x;98d,98e,x;991,992,x;9a9,9a9,x;9b1,9b1,x;9b3,9b5,x;9ba,9bb,x;9c5,9c6,x;9c9,9ca,x;9cf,9d6,x;9d8,9db,x;9dc,9dc,m9a1.9bc;9dd,9dd,m9a2.9bc;9de,9de,x;9df,9df,m9af.9bc;9e4,9e5,x;9ff,a00,x;a04,a04,x;a0b,a0e,x;a11,a12,x;a29,a29,x;a31,a31,x;a33,a33,ma32.a3c;a34,a34,x;a36,a36,ma38.a3c;a37,a37,x;a3a,a3b,x;a3d,a3d,x;a43,a46,x;a49,a4a,x;a4e,a50,x;a52,a58,x;a59,a59,ma16.a3c;a5a,a5a,ma17.a3c;a5b,a5b,ma1c.a3c;a5d,a5d,x;a5e,a5e,ma2b.a3c;a5f,a65,x;a77,a80,x;a84,a84,x;a8e,a8e,x;a92,a92,x;aa9,aa9,x;ab1,ab1,x;ab4,ab4,x;aba,abb,x;ac6,ac6,x;aca,aca,x;ace,acf,x;ad1,adf,x;ae4,ae5,x;af2,af8,x;b00,b00,x;b04,b04,x;b0d,b0e,x;b11,b12,x;b29,b29,x;b31,b31,x;b34,b34,x;b3a,b3b,x;b45,b46,x;b49,b4a,x;b4e,b54,x;b58,b5b,x;b5c,b5c,mb21.b3c;b5d,b5d,mb22.b3c;b5e,b5e,x;b64,b65,x;b78,b81,x;b84,b84,x;b8b,b8d,x;b91,b91,x;b96,b98,x;b9b,",
    "b9b,x;b9d,b9d,x;ba0,ba2,x;ba5,ba7,x;bab,bad,x;bba,bbd,x;bc3,bc5,x;bc9,bc9,x;bce,bcf,x;bd1,bd6,x;bd8,be5,x;bfb,bff,x;c0d,c0d,x;c11,c11,x;c29,c29,x;c3a,c3b,x;c45,c45,x;c49,c49,x;c4e,c54,x;c57,c57,x;c5b,c5b,x;c5e,c5f,x;c64,c65,x;c70,c76,x;c8d,c8d,x;c91,c91,x;ca9,ca9,x;cb4,cb4,x;cba,cbb,x;cc5,cc5,x;cc9,cc9,x;cce,cd4,x;cd7,cdb,x;cdf,cdf,x;ce4,ce5,x;cf0,cf0,x;cf4,cff,x;d0d,d0d,x;d11,d11,x;d45,d45,x;d49,d49,x;d50,d53,x;d64,d65,x;d80,d80,x;d84,d84,x;d97,d99,x;db2,db2,x;dbc,dbc,x;dbe,dbf,x;dc7,dc9,x;dcb,dce,x;dd5,dd5,x;dd7,dd7,x;de0,de5,x;df0,df1,x;df5,e00,x;e33,e33,me4d.e32;e3b,e3e,x;e5c,e80,x;e83,e83,x;e85,e85,x;e8b,e8b,x;ea4,ea4,x;ea6,ea6,x;eb3,eb3,mecd.eb2;ebe,ebf,x;ec5,ec5,x;ec7,ec7,x;ecf,ecf,x;eda,edb,x;edc,edc,meab.e99;edd,edd,meab.ea1;ee0,eff,x;f0c,f0c,mf0b;f43,f43,mf42.fb7;f48,f48,x;f4d,f4d,mf4c.fb7;f52,f52,mf51.fb7;f57,f57,mf56.fb7;f5c,f5c,mf5b.fb7;f69,f69,mf40.fb5;f6d,f70,x;f73,f73,mf71.f72;f75,f75,mf71.f74;f76,f76,mfb2.f80;f77,f77,mfb2.f71.f80;f78,f78,mfb3.f80;f79,f79,mfb3.f71.f80;f",
    "81,f81,mf71.f80;f93,f93,mf92.fb7;f98,f98,x;f9d,f9d,mf9c.fb7;fa2,fa2,mfa1.fb7;fa7,fa7,mfa6.fb7;fac,fac,mfab.fb7;fb9,fb9,mf90.fb5;fbd,fbd,x;fcd,fcd,x;fdb,fff,x;10a0,10a0,m2d00;10a1,10a1,m2d01;10a2,10a2,m2d02;10a3,10a3,m2d03;10a4,10a4,m2d04;10a5,10a5,m2d05;10a6,10a6,m2d06;10a7,10a7,m2d07;10a8,10a8,m2d08;10a9,10a9,m2d09;10aa,10aa,m2d0a;10ab,10ab,m2d0b;10ac,10ac,m2d0c;10ad,10ad,m2d0d;10ae,10ae,m2d0e;10af,10af,m2d0f;10b0,10b0,m2d10;10b1,10b1,m2d11;10b2,10b2,m2d12;10b3,10b3,m2d13;10b4,10b4,m2d14;10b5,10b5,m2d15;10b6,10b6,m2d16;10b7,10b7,m2d17;10b8,10b8,m2d18;10b9,10b9,m2d19;10ba,10ba,m2d1a;10bb,10bb,m2d1b;10bc,10bc,m2d1c;10bd,10bd,m2d1d;10be,10be,m2d1e;10bf,10bf,m2d1f;10c0,10c0,m2d20;10c1,10c1,m2d21;10c2,10c2,m2d22;10c3,10c3,m2d23;10c4,10c4,m2d24;10c5,10c5,m2d25;10c6,10c6,x;10c7,10c7,m2d27;10c8,10cc,x;10cd,10cd,m2d2d;10ce,10cf,x;10fc,10fc,m10dc;115f,1160,i;1249,1249,x;124e,124f,x;1257,1257,x;1259,1259,x;125e,125f,x;1289,1289,x;128e,128f,x;12b1,12b1,x;12b6,12b7,x;12bf,12bf,x;12c1,12c1,x;12c6,1",
    "2c7,x;12d7,12d7,x;1311,1311,x;1316,1317,x;135b,135c,x;137d,137f,x;139a,139f,x;13f6,13f7,x;13f8,13f8,m13f0;13f9,13f9,m13f1;13fa,13fa,m13f2;13fb,13fb,m13f3;13fc,13fc,m13f4;13fd,13fd,m13f5;13fe,13ff,x;1680,1680,x;169d,169f,x;16f9,16ff,x;1716,171e,x;1737,173f,x;1754,175f,x;176d,176d,x;1771,1771,x;1774,177f,x;17b4,17b5,i;17de,17df,x;17ea,17ef,x;17fa,17ff,x;180b,180f,i;181a,181f,x;1879,187f,x;18ab,18af,x;18f6,18ff,x;191f,191f,x;192c,192f,x;193c,193f,x;1941,1943,x;196e,196f,x;1975,197f,x;19ac,19af,x;19ca,19cf,x;19db,19dd,x;1a1c,1a1d,x;1a5f,1a5f,x;1a7d,1a7e,x;1a8a,1a8f,x;1a9a,1a9f,x;1aae,1aaf,x;1ade,1adf,x;1aec,1aff,x;1b4d,1b4d,x;1bf4,1bfb,x;1c38,1c3a,x;1c4a,1c4c,x;1c80,1c80,m432;1c81,1c81,m434;1c82,1c82,m43e;1c83,1c83,m441;1c84,1c85,m442;1c86,1c86,m44a;1c87,1c87,m463;1c88,1c88,ma64b;1c89,1c89,m1c8a;1c8b,1c8f,x;1c90,1c90,m10d0;1c91,1c91,m10d1;1c92,1c92,m10d2;1c93,1c93,m10d3;1c94,1c94,m10d4;1c95,1c95,m10d5;1c96,1c96,m10d6;1c97,1c97,m10d7;1c98,1c98,m10d8;1c99,1c99,m10d9;1c9a,1c9a,m10da;1c9b,1c9b",
    ",m10db;1c9c,1c9c,m10dc;1c9d,1c9d,m10dd;1c9e,1c9e,m10de;1c9f,1c9f,m10df;1ca0,1ca0,m10e0;1ca1,1ca1,m10e1;1ca2,1ca2,m10e2;1ca3,1ca3,m10e3;1ca4,1ca4,m10e4;1ca5,1ca5,m10e5;1ca6,1ca6,m10e6;1ca7,1ca7,m10e7;1ca8,1ca8,m10e8;1ca9,1ca9,m10e9;1caa,1caa,m10ea;1cab,1cab,m10eb;1cac,1cac,m10ec;1cad,1cad,m10ed;1cae,1cae,m10ee;1caf,1caf,m10ef;1cb0,1cb0,m10f0;1cb1,1cb1,m10f1;1cb2,1cb2,m10f2;1cb3,1cb3,m10f3;1cb4,1cb4,m10f4;1cb5,1cb5,m10f5;1cb6,1cb6,m10f6;1cb7,1cb7,m10f7;1cb8,1cb8,m10f8;1cb9,1cb9,m10f9;1cba,1cba,m10fa;1cbb,1cbc,x;1cbd,1cbd,m10fd;1cbe,1cbe,m10fe;1cbf,1cbf,m10ff;1cc8,1ccf,x;1cfb,1cff,x;1d2c,1d2c,m61;1d2d,1d2d,me6;1d2e,1d2e,m62;1d30,1d30,m64;1d31,1d31,m65;1d32,1d32,m1dd;1d33,1d33,m67;1d34,1d34,m68;1d35,1d35,m69;1d36,1d36,m6a;1d37,1d37,m6b;1d38,1d38,m6c;1d39,1d39,m6d;1d3a,1d3a,m6e;1d3c,1d3c,m6f;1d3d,1d3d,m223;1d3e,1d3e,m70;1d3f,1d3f,m72;1d40,1d40,m74;1d41,1d41,m75;1d42,1d42,m77;1d43,1d43,m61;1d44,1d44,m250;1d45,1d45,m251;1d46,1d46,m1d02;1d47,1d47,m62;1d48,1d48,m64;1d49,1d49,m65;1d4a,1d4a,m259;",
    "1d4b,1d4b,m25b;1d4c,1d4c,m25c;1d4d,1d4d,m67;1d4f,1d4f,m6b;1d50,1d50,m6d;1d51,1d51,m14b;1d52,1d52,m6f;1d53,1d53,m254;1d54,1d54,m1d16;1d55,1d55,m1d17;1d56,1d56,m70;1d57,1d57,m74;1d58,1d58,m75;1d59,1d59,m1d1d;1d5a,1d5a,m26f;1d5b,1d5b,m76;1d5c,1d5c,m1d25;1d5d,1d5d,m3b2;1d5e,1d5e,m3b3;1d5f,1d5f,m3b4;1d60,1d60,m3c6;1d61,1d61,m3c7;1d62,1d62,m69;1d63,1d63,m72;1d64,1d64,m75;1d65,1d65,m76;1d66,1d66,m3b2;1d67,1d67,m3b3;1d68,1d68,m3c1;1d69,1d69,m3c6;1d6a,1d6a,m3c7;1d78,1d78,m43d;1d9b,1d9b,m252;1d9c,1d9c,m63;1d9d,1d9d,m255;1d9e,1d9e,mf0;1d9f,1d9f,m25c;1da0,1da0,m66;1da1,1da1,m25f;1da2,1da2,m261;1da3,1da3,m265;1da4,1da4,m268;1da5,1da5,m269;1da6,1da6,m26a;1da7,1da7,m1d7b;1da8,1da8,m29d;1da9,1da9,m26d;1daa,1daa,m1d85;1dab,1dab,m29f;1dac,1dac,m271;1dad,1dad,m270;1dae,1dae,m272;1daf,1daf,m273;1db0,1db0,m274;1db1,1db1,m275;1db2,1db2,m278;1db3,1db3,m282;1db4,1db4,m283;1db5,1db5,m1ab;1db6,1db6,m289;1db7,1db7,m28a;1db8,1db8,m1d1c;1db9,1db9,m28b;1dba,1dba,m28c;1dbb,1dbb,m7a;1dbc,1dbc,m290;1dbd,1dbd,m291;1dbe",
    ",1dbe,m292;1dbf,1dbf,m3b8;1e00,1e00,m1e01;1e02,1e02,m1e03;1e04,1e04,m1e05;1e06,1e06,m1e07;1e08,1e08,m1e09;1e0a,1e0a,m1e0b;1e0c,1e0c,m1e0d;1e0e,1e0e,m1e0f;1e10,1e10,m1e11;1e12,1e12,m1e13;1e14,1e14,m1e15;1e16,1e16,m1e17;1e18,1e18,m1e19;1e1a,1e1a,m1e1b;1e1c,1e1c,m1e1d;1e1e,1e1e,m1e1f;1e20,1e20,m1e21;1e22,1e22,m1e23;1e24,1e24,m1e25;1e26,1e26,m1e27;1e28,1e28,m1e29;1e2a,1e2a,m1e2b;1e2c,1e2c,m1e2d;1e2e,1e2e,m1e2f;1e30,1e30,m1e31;1e32,1e32,m1e33;1e34,1e34,m1e35;1e36,1e36,m1e37;1e38,1e38,m1e39;1e3a,1e3a,m1e3b;1e3c,1e3c,m1e3d;1e3e,1e3e,m1e3f;1e40,1e40,m1e41;1e42,1e42,m1e43;1e44,1e44,m1e45;1e46,1e46,m1e47;1e48,1e48,m1e49;1e4a,1e4a,m1e4b;1e4c,1e4c,m1e4d;1e4e,1e4e,m1e4f;1e50,1e50,m1e51;1e52,1e52,m1e53;1e54,1e54,m1e55;1e56,1e56,m1e57;1e58,1e58,m1e59;1e5a,1e5a,m1e5b;1e5c,1e5c,m1e5d;1e5e,1e5e,m1e5f;1e60,1e60,m1e61;1e62,1e62,m1e63;1e64,1e64,m1e65;1e66,1e66,m1e67;1e68,1e68,m1e69;1e6a,1e6a,m1e6b;1e6c,1e6c,m1e6d;1e6e,1e6e,m1e6f;1e70,1e70,m1e71;1e72,1e72,m1e73;1e74,1e74,m1e75;1e76,1e76,m1e77;1e78,1e78,m1e7",
    "9;1e7a,1e7a,m1e7b;1e7c,1e7c,m1e7d;1e7e,1e7e,m1e7f;1e80,1e80,m1e81;1e82,1e82,m1e83;1e84,1e84,m1e85;1e86,1e86,m1e87;1e88,1e88,m1e89;1e8a,1e8a,m1e8b;1e8c,1e8c,m1e8d;1e8e,1e8e,m1e8f;1e90,1e90,m1e91;1e92,1e92,m1e93;1e94,1e94,m1e95;1e9a,1e9a,m61.2be;1e9b,1e9b,m1e61;1e9e,1e9e,mdf;1ea0,1ea0,m1ea1;1ea2,1ea2,m1ea3;1ea4,1ea4,m1ea5;1ea6,1ea6,m1ea7;1ea8,1ea8,m1ea9;1eaa,1eaa,m1eab;1eac,1eac,m1ead;1eae,1eae,m1eaf;1eb0,1eb0,m1eb1;1eb2,1eb2,m1eb3;1eb4,1eb4,m1eb5;1eb6,1eb6,m1eb7;1eb8,1eb8,m1eb9;1eba,1eba,m1ebb;1ebc,1ebc,m1ebd;1ebe,1ebe,m1ebf;1ec0,1ec0,m1ec1;1ec2,1ec2,m1ec3;1ec4,1ec4,m1ec5;1ec6,1ec6,m1ec7;1ec8,1ec8,m1ec9;1eca,1eca,m1ecb;1ecc,1ecc,m1ecd;1ece,1ece,m1ecf;1ed0,1ed0,m1ed1;1ed2,1ed2,m1ed3;1ed4,1ed4,m1ed5;1ed6,1ed6,m1ed7;1ed8,1ed8,m1ed9;1eda,1eda,m1edb;1edc,1edc,m1edd;1ede,1ede,m1edf;1ee0,1ee0,m1ee1;1ee2,1ee2,m1ee3;1ee4,1ee4,m1ee5;1ee6,1ee6,m1ee7;1ee8,1ee8,m1ee9;1eea,1eea,m1eeb;1eec,1eec,m1eed;1eee,1eee,m1eef;1ef0,1ef0,m1ef1;1ef2,1ef2,m1ef3;1ef4,1ef4,m1ef5;1ef6,1ef6,m1ef7;1ef8,1ef8,m1ef9;1efa,1",
    "efa,m1efb;1efc,1efc,m1efd;1efe,1efe,m1eff;1f08,1f08,m1f00;1f09,1f09,m1f01;1f0a,1f0a,m1f02;1f0b,1f0b,m1f03;1f0c,1f0c,m1f04;1f0d,1f0d,m1f05;1f0e,1f0e,m1f06;1f0f,1f0f,m1f07;1f16,1f17,x;1f18,1f18,m1f10;1f19,1f19,m1f11;1f1a,1f1a,m1f12;1f1b,1f1b,m1f13;1f1c,1f1c,m1f14;1f1d,1f1d,m1f15;1f1e,1f1f,x;1f28,1f28,m1f20;1f29,1f29,m1f21;1f2a,1f2a,m1f22;1f2b,1f2b,m1f23;1f2c,1f2c,m1f24;1f2d,1f2d,m1f25;1f2e,1f2e,m1f26;1f2f,1f2f,m1f27;1f38,1f38,m1f30;1f39,1f39,m1f31;1f3a,1f3a,m1f32;1f3b,1f3b,m1f33;1f3c,1f3c,m1f34;1f3d,1f3d,m1f35;1f3e,1f3e,m1f36;1f3f,1f3f,m1f37;1f46,1f47,x;1f48,1f48,m1f40;1f49,1f49,m1f41;1f4a,1f4a,m1f42;1f4b,1f4b,m1f43;1f4c,1f4c,m1f44;1f4d,1f4d,m1f45;1f4e,1f4f,x;1f58,1f58,x;1f59,1f59,m1f51;1f5a,1f5a,x;1f5b,1f5b,m1f53;1f5c,1f5c,x;1f5d,1f5d,m1f55;1f5e,1f5e,x;1f5f,1f5f,m1f57;1f68,1f68,m1f60;1f69,1f69,m1f61;1f6a,1f6a,m1f62;1f6b,1f6b,m1f63;1f6c,1f6c,m1f64;1f6d,1f6d,m1f65;1f6e,1f6e,m1f66;1f6f,1f6f,m1f67;1f71,1f71,m3ac;1f73,1f73,m3ad;1f75,1f75,m3ae;1f77,1f77,m3af;1f79,1f79,m3cc;1f7b,1f7b,m3cd;1f7d",
    ",1f7d,m3ce;1f7e,1f7f,x;1f80,1f80,m1f00.3b9;1f81,1f81,m1f01.3b9;1f82,1f82,m1f02.3b9;1f83,1f83,m1f03.3b9;1f84,1f84,m1f04.3b9;1f85,1f85,m1f05.3b9;1f86,1f86,m1f06.3b9;1f87,1f87,m1f07.3b9;1f88,1f88,m1f00.3b9;1f89,1f89,m1f01.3b9;1f8a,1f8a,m1f02.3b9;1f8b,1f8b,m1f03.3b9;1f8c,1f8c,m1f04.3b9;1f8d,1f8d,m1f05.3b9;1f8e,1f8e,m1f06.3b9;1f8f,1f8f,m1f07.3b9;1f90,1f90,m1f20.3b9;1f91,1f91,m1f21.3b9;1f92,1f92,m1f22.3b9;1f93,1f93,m1f23.3b9;1f94,1f94,m1f24.3b9;1f95,1f95,m1f25.3b9;1f96,1f96,m1f26.3b9;1f97,1f97,m1f27.3b9;1f98,1f98,m1f20.3b9;1f99,1f99,m1f21.3b9;1f9a,1f9a,m1f22.3b9;1f9b,1f9b,m1f23.3b9;1f9c,1f9c,m1f24.3b9;1f9d,1f9d,m1f25.3b9;1f9e,1f9e,m1f26.3b9;1f9f,1f9f,m1f27.3b9;1fa0,1fa0,m1f60.3b9;1fa1,1fa1,m1f61.3b9;1fa2,1fa2,m1f62.3b9;1fa3,1fa3,m1f63.3b9;1fa4,1fa4,m1f64.3b9;1fa5,1fa5,m1f65.3b9;1fa6,1fa6,m1f66.3b9;1fa7,1fa7,m1f67.3b9;1fa8,1fa8,m1f60.3b9;1fa9,1fa9,m1f61.3b9;1faa,1faa,m1f62.3b9;1fab,1fab,m1f63.3b9;1fac,1fac,m1f64.3b9;1fad,1fad,m1f65.3b9;1fae,1fae,m1f66.3b9;1faf,1faf,m1f67.3b9;1fb2,1fb2,m1f70.3",
    "b9;1fb3,1fb3,m3b1.3b9;1fb4,1fb4,m3ac.3b9;1fb5,1fb5,x;1fb7,1fb7,m1fb6.3b9;1fb8,1fb8,m1fb0;1fb9,1fb9,m1fb1;1fba,1fba,m1f70;1fbb,1fbb,m3ac;1fbc,1fbc,m3b1.3b9;1fbd,1fbd,m20.313;1fbe,1fbe,m3b9;1fbf,1fbf,m20.313;1fc0,1fc0,m20.342;1fc1,1fc1,m20.308.342;1fc2,1fc2,m1f74.3b9;1fc3,1fc3,m3b7.3b9;1fc4,1fc4,m3ae.3b9;1fc5,1fc5,x;1fc7,1fc7,m1fc6.3b9;1fc8,1fc8,m1f72;1fc9,1fc9,m3ad;1fca,1fca,m1f74;1fcb,1fcb,m3ae;1fcc,1fcc,m3b7.3b9;1fcd,1fcd,m20.313.300;1fce,1fce,m20.313.301;1fcf,1fcf,m20.313.342;1fd3,1fd3,m390;1fd4,1fd5,x;1fd8,1fd8,m1fd0;1fd9,1fd9,m1fd1;1fda,1fda,m1f76;1fdb,1fdb,m3af;1fdc,1fdc,x;1fdd,1fdd,m20.314.300;1fde,1fde,m20.314.301;1fdf,1fdf,m20.314.342;1fe3,1fe3,m3b0;1fe8,1fe8,m1fe0;1fe9,1fe9,m1fe1;1fea,1fea,m1f7a;1feb,1feb,m3cd;1fec,1fec,m1fe5;1fed,1fed,m20.308.300;1fee,1fee,m20.308.301;1fef,1fef,m60;1ff0,1ff1,x;1ff2,1ff2,m1f7c.3b9;1ff3,1ff3,m3c9.3b9;1ff4,1ff4,m3ce.3b9;1ff5,1ff5,x;1ff7,1ff7,m1ff6.3b9;1ff8,1ff8,m1f78;1ff9,1ff9,m3cc;1ffa,1ffa,m1f7c;1ffb,1ffb,m3ce;1ffc,1ffc,m3c9.3b9;1ffd,1ffd,m20.",
    "301;1ffe,1ffe,m20.314;1fff,1fff,x;2000,200a,m20;200b,200b,i;200c,200d,d;200e,200f,x;2011,2011,m2010;2017,2017,m20.333;2024,2026,x;2028,202e,x;202f,202f,m20;2033,2033,m2032.2032;2034,2034,m2032.2032.2032;2036,2036,m2035.2035;2037,2037,m2035.2035.2035;203c,203c,m21.21;203e,203e,m20.305;2047,2047,m3f.3f;2048,2048,m3f.21;2049,2049,m21.3f;2057,2057,m2032.2032.2032.2032;205f,205f,m20;2060,2064,i;2065,2069,x;206a,206f,i;2070,2070,m30;2071,2071,m69;2072,2073,x;2074,2074,m34;2075,2075,m35;2076,2076,m36;2077,2077,m37;2078,2078,m38;2079,2079,m39;207a,207a,m2b;207b,207b,m2212;207c,207c,m3d;207d,207d,m28;207e,207e,m29;207f,207f,m6e;2080,2080,m30;2081,2081,m31;2082,2082,m32;2083,2083,m33;2084,2084,m34;2085,2085,m35;2086,2086,m36;2087,2087,m37;2088,2088,m38;2089,2089,m39;208a,208a,m2b;208b,208b,m2212;208c,208c,m3d;208d,208d,m28;208e,208e,m29;208f,208f,x;2090,2090,m61;2091,2091,m65;2092,2092,m6f;2093,2093,m78;2094,2094,m259;2095,2095,m68;2096,2096,m6b;2097,2097,m6c;2098,2098,m6d;2099,2099,m6e;209a,209",
    "a,m70;209b,209b,m73;209c,209c,m74;209d,209f,x;20a8,20a8,m72.73;20c2,20cf,x;20f1,20ff,x;2100,2100,m61.2f.63;2101,2101,m61.2f.73;2102,2102,m63;2103,2103,mb0.63;2105,2105,m63.2f.6f;2106,2106,m63.2f.75;2107,2107,m25b;2109,2109,mb0.66;210a,210a,m67;210b,210e,m68;210f,210f,m127;2110,2111,m69;2112,2113,m6c;2115,2115,m6e;2116,2116,m6e.6f;2119,2119,m70;211a,211a,m71;211b,211d,m72;2120,2120,m73.6d;2121,2121,m74.65.6c;2122,2122,m74.6d;2124,2124,m7a;2126,2126,m3c9;2128,2128,m7a;212a,212a,m6b;212b,212b,me5;212c,212c,m62;212d,212d,m63;212f,2130,m65;2131,2131,m66;2132,2132,m214e;2133,2133,m6d;2134,2134,m6f;2135,2135,m5d0;2136,2136,m5d1;2137,2137,m5d2;2138,2138,m5d3;2139,2139,m69;213b,213b,m66.61.78;213c,213c,m3c0;213d,213e,m3b3;213f,213f,m3c0;2140,2140,m2211;2145,2146,m64;2147,2147,m65;2148,2148,m69;2149,2149,m6a;2150,2150,m31.2044.37;2151,2151,m31.2044.39;2152,2152,m31.2044.31.30;2153,2153,m31.2044.33;2154,2154,m32.2044.33;2155,2155,m31.2044.35;2156,2156,m32.2044.35;2157,2157,m33.2044.35;2158,2158,m",
    "34.2044.35;2159,2159,m31.2044.36;215a,215a,m35.2044.36;215b,215b,m31.2044.38;215c,215c,m33.2044.38;215d,215d,m35.2044.38;215e,215e,m37.2044.38;215f,215f,m31.2044;2160,2160,m69;2161,2161,m69.69;2162,2162,m69.69.69;2163,2163,m69.76;2164,2164,m76;2165,2165,m76.69;2166,2166,m76.69.69;2167,2167,m76.69.69.69;2168,2168,m69.78;2169,2169,m78;216a,216a,m78.69;216b,216b,m78.69.69;216c,216c,m6c;216d,216d,m63;216e,216e,m64;216f,216f,m6d;2170,2170,m69;2171,2171,m69.69;2172,2172,m69.69.69;2173,2173,m69.76;2174,2174,m76;2175,2175,m76.69;2176,2176,m76.69.69;2177,2177,m76.69.69.69;2178,2178,m69.78;2179,2179,m78;217a,217a,m78.69;217b,217b,m78.69.69;217c,217c,m6c;217d,217d,m63;217e,217e,m64;217f,217f,m6d;2183,2183,m2184;2189,2189,m30.2044.33;218c,218f,x;222c,222c,m222b.222b;222d,222d,m222b.222b.222b;222f,222f,m222e.222e;2230,2230,m222e.222e.222e;2329,2329,m3008;232a,232a,m3009;242a,243f,x;244b,245f,x;2460,2460,m31;2461,2461,m32;2462,2462,m33;2463,2463,m34;2464,2464,m35;2465,2465,m36;2466,2466,m37;2467,246",
    "7,m38;2468,2468,m39;2469,2469,m31.30;246a,246a,m31.31;246b,246b,m31.32;246c,246c,m31.33;246d,246d,m31.34;246e,246e,m31.35;246f,246f,m31.36;2470,2470,m31.37;2471,2471,m31.38;2472,2472,m31.39;2473,2473,m32.30;2474,2474,m28.31.29;2475,2475,m28.32.29;2476,2476,m28.33.29;2477,2477,m28.34.29;2478,2478,m28.35.29;2479,2479,m28.36.29;247a,247a,m28.37.29;247b,247b,m28.38.29;247c,247c,m28.39.29;247d,247d,m28.31.30.29;247e,247e,m28.31.31.29;247f,247f,m28.31.32.29;2480,2480,m28.31.33.29;2481,2481,m28.31.34.29;2482,2482,m28.31.35.29;2483,2483,m28.31.36.29;2484,2484,m28.31.37.29;2485,2485,m28.31.38.29;2486,2486,m28.31.39.29;2487,2487,m28.32.30.29;2488,249b,x;249c,249c,m28.61.29;249d,249d,m28.62.29;249e,249e,m28.63.29;249f,249f,m28.64.29;24a0,24a0,m28.65.29;24a1,24a1,m28.66.29;24a2,24a2,m28.67.29;24a3,24a3,m28.68.29;24a4,24a4,m28.69.29;24a5,24a5,m28.6a.29;24a6,24a6,m28.6b.29;24a7,24a7,m28.6c.29;24a8,24a8,m28.6d.29;24a9,24a9,m28.6e.29;24aa,24aa,m28.6f.29;24ab,24ab,m28.70.29;24ac,24ac,m28.71.29;24ad,24a",
    "d,m28.72.29;24ae,24ae,m28.73.29;24af,24af,m28.74.29;24b0,24b0,m28.75.29;24b1,24b1,m28.76.29;24b2,24b2,m28.77.29;24b3,24b3,m28.78.29;24b4,24b4,m28.79.29;24b5,24b5,m28.7a.29;24b6,24b6,m61;24b7,24b7,m62;24b8,24b8,m63;24b9,24b9,m64;24ba,24ba,m65;24bb,24bb,m66;24bc,24bc,m67;24bd,24bd,m68;24be,24be,m69;24bf,24bf,m6a;24c0,24c0,m6b;24c1,24c1,m6c;24c2,24c2,m6d;24c3,24c3,m6e;24c4,24c4,m6f;24c5,24c5,m70;24c6,24c6,m71;24c7,24c7,m72;24c8,24c8,m73;24c9,24c9,m74;24ca,24ca,m75;24cb,24cb,m76;24cc,24cc,m77;24cd,24cd,m78;24ce,24ce,m79;24cf,24cf,m7a;24d0,24d0,m61;24d1,24d1,m62;24d2,24d2,m63;24d3,24d3,m64;24d4,24d4,m65;24d5,24d5,m66;24d6,24d6,m67;24d7,24d7,m68;24d8,24d8,m69;24d9,24d9,m6a;24da,24da,m6b;24db,24db,m6c;24dc,24dc,m6d;24dd,24dd,m6e;24de,24de,m6f;24df,24df,m70;24e0,24e0,m71;24e1,24e1,m72;24e2,24e2,m73;24e3,24e3,m74;24e4,24e4,m75;24e5,24e5,m76;24e6,24e6,m77;24e7,24e7,m78;24e8,24e8,m79;24e9,24e9,m7a;24ea,24ea,m30;2a0c,2a0c,m222b.222b.222b.222b;2a74,2a74,m3a.3a.3d;2a75,2a75,m3d.3d;2a76,2a76,m3d.3d.3",
    "d;2adc,2adc,m2add.338;2b74,2b75,x;2c00,2c00,m2c30;2c01,2c01,m2c31;2c02,2c02,m2c32;2c03,2c03,m2c33;2c04,2c04,m2c34;2c05,2c05,m2c35;2c06,2c06,m2c36;2c07,2c07,m2c37;2c08,2c08,m2c38;2c09,2c09,m2c39;2c0a,2c0a,m2c3a;2c0b,2c0b,m2c3b;2c0c,2c0c,m2c3c;2c0d,2c0d,m2c3d;2c0e,2c0e,m2c3e;2c0f,2c0f,m2c3f;2c10,2c10,m2c40;2c11,2c11,m2c41;2c12,2c12,m2c42;2c13,2c13,m2c43;2c14,2c14,m2c44;2c15,2c15,m2c45;2c16,2c16,m2c46;2c17,2c17,m2c47;2c18,2c18,m2c48;2c19,2c19,m2c49;2c1a,2c1a,m2c4a;2c1b,2c1b,m2c4b;2c1c,2c1c,m2c4c;2c1d,2c1d,m2c4d;2c1e,2c1e,m2c4e;2c1f,2c1f,m2c4f;2c20,2c20,m2c50;2c21,2c21,m2c51;2c22,2c22,m2c52;2c23,2c23,m2c53;2c24,2c24,m2c54;2c25,2c25,m2c55;2c26,2c26,m2c56;2c27,2c27,m2c57;2c28,2c28,m2c58;2c29,2c29,m2c59;2c2a,2c2a,m2c5a;2c2b,2c2b,m2c5b;2c2c,2c2c,m2c5c;2c2d,2c2d,m2c5d;2c2e,2c2e,m2c5e;2c2f,2c2f,m2c5f;2c60,2c60,m2c61;2c62,2c62,m26b;2c63,2c63,m1d7d;2c64,2c64,m27d;2c67,2c67,m2c68;2c69,2c69,m2c6a;2c6b,2c6b,m2c6c;2c6d,2c6d,m251;2c6e,2c6e,m271;2c6f,2c6f,m250;2c70,2c70,m252;2c72,2c72,m2c73;2c75,2c75,m2",
    "c76;2c7c,2c7c,m6a;2c7d,2c7d,m76;2c7e,2c7e,m23f;2c7f,2c7f,m240;2c80,2c80,m2c81;2c82,2c82,m2c83;2c84,2c84,m2c85;2c86,2c86,m2c87;2c88,2c88,m2c89;2c8a,2c8a,m2c8b;2c8c,2c8c,m2c8d;2c8e,2c8e,m2c8f;2c90,2c90,m2c91;2c92,2c92,m2c93;2c94,2c94,m2c95;2c96,2c96,m2c97;2c98,2c98,m2c99;2c9a,2c9a,m2c9b;2c9c,2c9c,m2c9d;2c9e,2c9e,m2c9f;2ca0,2ca0,m2ca1;2ca2,2ca2,m2ca3;2ca4,2ca4,m2ca5;2ca6,2ca6,m2ca7;2ca8,2ca8,m2ca9;2caa,2caa,m2cab;2cac,2cac,m2cad;2cae,2cae,m2caf;2cb0,2cb0,m2cb1;2cb2,2cb2,m2cb3;2cb4,2cb4,m2cb5;2cb6,2cb6,m2cb7;2cb8,2cb8,m2cb9;2cba,2cba,m2cbb;2cbc,2cbc,m2cbd;2cbe,2cbe,m2cbf;2cc0,2cc0,m2cc1;2cc2,2cc2,m2cc3;2cc4,2cc4,m2cc5;2cc6,2cc6,m2cc7;2cc8,2cc8,m2cc9;2cca,2cca,m2ccb;2ccc,2ccc,m2ccd;2cce,2cce,m2ccf;2cd0,2cd0,m2cd1;2cd2,2cd2,m2cd3;2cd4,2cd4,m2cd5;2cd6,2cd6,m2cd7;2cd8,2cd8,m2cd9;2cda,2cda,m2cdb;2cdc,2cdc,m2cdd;2cde,2cde,m2cdf;2ce0,2ce0,m2ce1;2ce2,2ce2,m2ce3;2ceb,2ceb,m2cec;2ced,2ced,m2cee;2cf2,2cf2,m2cf3;2cf4,2cf8,x;2d26,2d26,x;2d28,2d2c,x;2d2e,2d2f,x;2d68,2d6e,x;2d6f,2d6f,m2d61;2d71,2d7e,x;2d",
    "97,2d9f,x;2da7,2da7,x;2daf,2daf,x;2db7,2db7,x;2dbf,2dbf,x;2dc7,2dc7,x;2dcf,2dcf,x;2dd7,2dd7,x;2ddf,2ddf,x;2e5e,2e7f,x;2e9a,2e9a,x;2e9f,2e9f,m6bcd;2ef3,2ef3,m9f9f;2ef4,2eff,x;2f00,2f00,m4e00;2f01,2f01,m4e28;2f02,2f02,m4e36;2f03,2f03,m4e3f;2f04,2f04,m4e59;2f05,2f05,m4e85;2f06,2f06,m4e8c;2f07,2f07,m4ea0;2f08,2f08,m4eba;2f09,2f09,m513f;2f0a,2f0a,m5165;2f0b,2f0b,m516b;2f0c,2f0c,m5182;2f0d,2f0d,m5196;2f0e,2f0e,m51ab;2f0f,2f0f,m51e0;2f10,2f10,m51f5;2f11,2f11,m5200;2f12,2f12,m529b;2f13,2f13,m52f9;2f14,2f14,m5315;2f15,2f15,m531a;2f16,2f16,m5338;2f17,2f17,m5341;2f18,2f18,m535c;2f19,2f19,m5369;2f1a,2f1a,m5382;2f1b,2f1b,m53b6;2f1c,2f1c,m53c8;2f1d,2f1d,m53e3;2f1e,2f1e,m56d7;2f1f,2f1f,m571f;2f20,2f20,m58eb;2f21,2f21,m5902;2f22,2f22,m590a;2f23,2f23,m5915;2f24,2f24,m5927;2f25,2f25,m5973;2f26,2f26,m5b50;2f27,2f27,m5b80;2f28,2f28,m5bf8;2f29,2f29,m5c0f;2f2a,2f2a,m5c22;2f2b,2f2b,m5c38;2f2c,2f2c,m5c6e;2f2d,2f2d,m5c71;2f2e,2f2e,m5ddb;2f2f,2f2f,m5de5;2f30,2f30,m5df1;2f31,2f31,m5dfe;2f32,2f32,m5e72;2f33,2f33,",
    "m5e7a;2f34,2f34,m5e7f;2f35,2f35,m5ef4;2f36,2f36,m5efe;2f37,2f37,m5f0b;2f38,2f38,m5f13;2f39,2f39,m5f50;2f3a,2f3a,m5f61;2f3b,2f3b,m5f73;2f3c,2f3c,m5fc3;2f3d,2f3d,m6208;2f3e,2f3e,m6236;2f3f,2f3f,m624b;2f40,2f40,m652f;2f41,2f41,m6534;2f42,2f42,m6587;2f43,2f43,m6597;2f44,2f44,m65a4;2f45,2f45,m65b9;2f46,2f46,m65e0;2f47,2f47,m65e5;2f48,2f48,m66f0;2f49,2f49,m6708;2f4a,2f4a,m6728;2f4b,2f4b,m6b20;2f4c,2f4c,m6b62;2f4d,2f4d,m6b79;2f4e,2f4e,m6bb3;2f4f,2f4f,m6bcb;2f50,2f50,m6bd4;2f51,2f51,m6bdb;2f52,2f52,m6c0f;2f53,2f53,m6c14;2f54,2f54,m6c34;2f55,2f55,m706b;2f56,2f56,m722a;2f57,2f57,m7236;2f58,2f58,m723b;2f59,2f59,m723f;2f5a,2f5a,m7247;2f5b,2f5b,m7259;2f5c,2f5c,m725b;2f5d,2f5d,m72ac;2f5e,2f5e,m7384;2f5f,2f5f,m7389;2f60,2f60,m74dc;2f61,2f61,m74e6;2f62,2f62,m7518;2f63,2f63,m751f;2f64,2f64,m7528;2f65,2f65,m7530;2f66,2f66,m758b;2f67,2f67,m7592;2f68,2f68,m7676;2f69,2f69,m767d;2f6a,2f6a,m76ae;2f6b,2f6b,m76bf;2f6c,2f6c,m76ee;2f6d,2f6d,m77db;2f6e,2f6e,m77e2;2f6f,2f6f,m77f3;2f70,2f70,m793a;2f71,2f71,m79b8;2f",
    "72,2f72,m79be;2f73,2f73,m7a74;2f74,2f74,m7acb;2f75,2f75,m7af9;2f76,2f76,m7c73;2f77,2f77,m7cf8;2f78,2f78,m7f36;2f79,2f79,m7f51;2f7a,2f7a,m7f8a;2f7b,2f7b,m7fbd;2f7c,2f7c,m8001;2f7d,2f7d,m800c;2f7e,2f7e,m8012;2f7f,2f7f,m8033;2f80,2f80,m807f;2f81,2f81,m8089;2f82,2f82,m81e3;2f83,2f83,m81ea;2f84,2f84,m81f3;2f85,2f85,m81fc;2f86,2f86,m820c;2f87,2f87,m821b;2f88,2f88,m821f;2f89,2f89,m826e;2f8a,2f8a,m8272;2f8b,2f8b,m8278;2f8c,2f8c,m864d;2f8d,2f8d,m866b;2f8e,2f8e,m8840;2f8f,2f8f,m884c;2f90,2f90,m8863;2f91,2f91,m897e;2f92,2f92,m898b;2f93,2f93,m89d2;2f94,2f94,m8a00;2f95,2f95,m8c37;2f96,2f96,m8c46;2f97,2f97,m8c55;2f98,2f98,m8c78;2f99,2f99,m8c9d;2f9a,2f9a,m8d64;2f9b,2f9b,m8d70;2f9c,2f9c,m8db3;2f9d,2f9d,m8eab;2f9e,2f9e,m8eca;2f9f,2f9f,m8f9b;2fa0,2fa0,m8fb0;2fa1,2fa1,m8fb5;2fa2,2fa2,m9091;2fa3,2fa3,m9149;2fa4,2fa4,m91c6;2fa5,2fa5,m91cc;2fa6,2fa6,m91d1;2fa7,2fa7,m9577;2fa8,2fa8,m9580;2fa9,2fa9,m961c;2faa,2faa,m96b6;2fab,2fab,m96b9;2fac,2fac,m96e8;2fad,2fad,m9751;2fae,2fae,m975e;2faf,2faf,m9762;2fb0,2fb0,",
    "m9769;2fb1,2fb1,m97cb;2fb2,2fb2,m97ed;2fb3,2fb3,m97f3;2fb4,2fb4,m9801;2fb5,2fb5,m98a8;2fb6,2fb6,m98db;2fb7,2fb7,m98df;2fb8,2fb8,m9996;2fb9,2fb9,m9999;2fba,2fba,m99ac;2fbb,2fbb,m9aa8;2fbc,2fbc,m9ad8;2fbd,2fbd,m9adf;2fbe,2fbe,m9b25;2fbf,2fbf,m9b2f;2fc0,2fc0,m9b32;2fc1,2fc1,m9b3c;2fc2,2fc2,m9b5a;2fc3,2fc3,m9ce5;2fc4,2fc4,m9e75;2fc5,2fc5,m9e7f;2fc6,2fc6,m9ea5;2fc7,2fc7,m9ebb;2fc8,2fc8,m9ec3;2fc9,2fc9,m9ecd;2fca,2fca,m9ed1;2fcb,2fcb,m9ef9;2fcc,2fcc,m9efd;2fcd,2fcd,m9f0e;2fce,2fce,m9f13;2fcf,2fcf,m9f20;2fd0,2fd0,m9f3b;2fd1,2fd1,m9f4a;2fd2,2fd2,m9f52;2fd3,2fd3,m9f8d;2fd4,2fd4,m9f9c;2fd5,2fd5,m9fa0;2fd6,2fff,x;3000,3000,m20;3002,3002,m2e;3036,3036,m3012;3038,3038,m5341;3039,3039,m5344;303a,303a,m5345;3040,3040,x;3097,3098,x;309b,309b,m20.3099;309c,309c,m20.309a;309f,309f,m3088.308a;30ff,30ff,m30b3.30c8;3100,3104,x;3130,3130,x;3131,3131,m1100;3132,3132,m1101;3133,3133,m11aa;3134,3134,m1102;3135,3135,m11ac;3136,3136,m11ad;3137,3137,m1103;3138,3138,m1104;3139,3139,m1105;313a,313a,m11b0;313b,313b,",
    "m11b1;313c,313c,m11b2;313d,313d,m11b3;313e,313e,m11b4;313f,313f,m11b5;3140,3140,m111a;3141,3141,m1106;3142,3142,m1107;3143,3143,m1108;3144,3144,m1121;3145,3145,m1109;3146,3146,m110a;3147,3147,m110b;3148,3148,m110c;3149,3149,m110d;314a,314a,m110e;314b,314b,m110f;314c,314c,m1110;314d,314d,m1111;314e,314e,m1112;314f,314f,m1161;3150,3150,m1162;3151,3151,m1163;3152,3152,m1164;3153,3153,m1165;3154,3154,m1166;3155,3155,m1167;3156,3156,m1168;3157,3157,m1169;3158,3158,m116a;3159,3159,m116b;315a,315a,m116c;315b,315b,m116d;315c,315c,m116e;315d,315d,m116f;315e,315e,m1170;315f,315f,m1171;3160,3160,m1172;3161,3161,m1173;3162,3162,m1174;3163,3163,m1175;3164,3164,i;3165,3165,m1114;3166,3166,m1115;3167,3167,m11c7;3168,3168,m11c8;3169,3169,m11cc;316a,316a,m11ce;316b,316b,m11d3;316c,316c,m11d7;316d,316d,m11d9;316e,316e,m111c;316f,316f,m11dd;3170,3170,m11df;3171,3171,m111d;3172,3172,m111e;3173,3173,m1120;3174,3174,m1122;3175,3175,m1123;3176,3176,m1127;3177,3177,m1129;3178,3178,m112b;3179,3179,m112c;317a,3",
    "17a,m112d;317b,317b,m112e;317c,317c,m112f;317d,317d,m1132;317e,317e,m1136;317f,317f,m1140;3180,3180,m1147;3181,3181,m114c;3182,3182,m11f1;3183,3183,m11f2;3184,3184,m1157;3185,3185,m1158;3186,3186,m1159;3187,3187,m1184;3188,3188,m1185;3189,3189,m1188;318a,318a,m1191;318b,318b,m1192;318c,318c,m1194;318d,318d,m119e;318e,318e,m11a1;318f,318f,x;3192,3192,m4e00;3193,3193,m4e8c;3194,3194,m4e09;3195,3195,m56db;3196,3196,m4e0a;3197,3197,m4e2d;3198,3198,m4e0b;3199,3199,m7532;319a,319a,m4e59;319b,319b,m4e19;319c,319c,m4e01;319d,319d,m5929;319e,319e,m5730;319f,319f,m4eba;31e6,31ef,x;3200,3200,m28.1100.29;3201,3201,m28.1102.29;3202,3202,m28.1103.29;3203,3203,m28.1105.29;3204,3204,m28.1106.29;3205,3205,m28.1107.29;3206,3206,m28.1109.29;3207,3207,m28.110b.29;3208,3208,m28.110c.29;3209,3209,m28.110e.29;320a,320a,m28.110f.29;320b,320b,m28.1110.29;320c,320c,m28.1111.29;320d,320d,m28.1112.29;320e,320e,m28.ac00.29;320f,320f,m28.b098.29;3210,3210,m28.b2e4.29;3211,3211,m28.b77c.29;3212,3212,m28.b9c8.29;3213",
    ",3213,m28.bc14.29;3214,3214,m28.c0ac.29;3215,3215,m28.c544.29;3216,3216,m28.c790.29;3217,3217,m28.cc28.29;3218,3218,m28.ce74.29;3219,3219,m28.d0c0.29;321a,321a,m28.d30c.29;321b,321b,m28.d558.29;321c,321c,m28.c8fc.29;321d,321d,m28.c624.c804.29;321e,321e,m28.c624.d6c4.29;321f,321f,x;3220,3220,m28.4e00.29;3221,3221,m28.4e8c.29;3222,3222,m28.4e09.29;3223,3223,m28.56db.29;3224,3224,m28.4e94.29;3225,3225,m28.516d.29;3226,3226,m28.4e03.29;3227,3227,m28.516b.29;3228,3228,m28.4e5d.29;3229,3229,m28.5341.29;322a,322a,m28.6708.29;322b,322b,m28.706b.29;322c,322c,m28.6c34.29;322d,322d,m28.6728.29;322e,322e,m28.91d1.29;322f,322f,m28.571f.29;3230,3230,m28.65e5.29;3231,3231,m28.682a.29;3232,3232,m28.6709.29;3233,3233,m28.793e.29;3234,3234,m28.540d.29;3235,3235,m28.7279.29;3236,3236,m28.8ca1.29;3237,3237,m28.795d.29;3238,3238,m28.52b4.29;3239,3239,m28.4ee3.29;323a,323a,m28.547c.29;323b,323b,m28.5b66.29;323c,323c,m28.76e3.29;323d,323d,m28.4f01.29;323e,323e,m28.8cc7.29;323f,323f,m28.5354.29;3240,3240,m28.",
    "796d.29;3241,3241,m28.4f11.29;3242,3242,m28.81ea.29;3243,3243,m28.81f3.29;3244,3244,m554f;3245,3245,m5e7c;3246,3246,m6587;3247,3247,m7b8f;3250,3250,m70.74.65;3251,3251,m32.31;3252,3252,m32.32;3253,3253,m32.33;3254,3254,m32.34;3255,3255,m32.35;3256,3256,m32.36;3257,3257,m32.37;3258,3258,m32.38;3259,3259,m32.39;325a,325a,m33.30;325b,325b,m33.31;325c,325c,m33.32;325d,325d,m33.33;325e,325e,m33.34;325f,325f,m33.35;3260,3260,m1100;3261,3261,m1102;3262,3262,m1103;3263,3263,m1105;3264,3264,m1106;3265,3265,m1107;3266,3266,m1109;3267,3267,m110b;3268,3268,m110c;3269,3269,m110e;326a,326a,m110f;326b,326b,m1110;326c,326c,m1111;326d,326d,m1112;326e,326e,mac00;326f,326f,mb098;3270,3270,mb2e4;3271,3271,mb77c;3272,3272,mb9c8;3273,3273,mbc14;3274,3274,mc0ac;3275,3275,mc544;3276,3276,mc790;3277,3277,mcc28;3278,3278,mce74;3279,3279,md0c0;327a,327a,md30c;327b,327b,md558;327c,327c,mcc38.ace0;327d,327d,mc8fc.c758;327e,327e,mc6b0;3280,3280,m4e00;3281,3281,m4e8c;3282,3282,m4e09;3283,3283,m56db;3284,3284,m4e94;3",
    "285,3285,m516d;3286,3286,m4e03;3287,3287,m516b;3288,3288,m4e5d;3289,3289,m5341;328a,328a,m6708;328b,328b,m706b;328c,328c,m6c34;328d,328d,m6728;328e,328e,m91d1;328f,328f,m571f;3290,3290,m65e5;3291,3291,m682a;3292,3292,m6709;3293,3293,m793e;3294,3294,m540d;3295,3295,m7279;3296,3296,m8ca1;3297,3297,m795d;3298,3298,m52b4;3299,3299,m79d8;329a,329a,m7537;329b,329b,m5973;329c,329c,m9069;329d,329d,m512a;329e,329e,m5370;329f,329f,m6ce8;32a0,32a0,m9805;32a1,32a1,m4f11;32a2,32a2,m5199;32a3,32a3,m6b63;32a4,32a4,m4e0a;32a5,32a5,m4e2d;32a6,32a6,m4e0b;32a7,32a7,m5de6;32a8,32a8,m53f3;32a9,32a9,m533b;32aa,32aa,m5b97;32ab,32ab,m5b66;32ac,32ac,m76e3;32ad,32ad,m4f01;32ae,32ae,m8cc7;32af,32af,m5354;32b0,32b0,m591c;32b1,32b1,m33.36;32b2,32b2,m33.37;32b3,32b3,m33.38;32b4,32b4,m33.39;32b5,32b5,m34.30;32b6,32b6,m34.31;32b7,32b7,m34.32;32b8,32b8,m34.33;32b9,32b9,m34.34;32ba,32ba,m34.35;32bb,32bb,m34.36;32bc,32bc,m34.37;32bd,32bd,m34.38;32be,32be,m34.39;32bf,32bf,m35.30;32c0,32c0,m31.6708;32c1,32c1,m32.6708;32c2",
    ",32c2,m33.6708;32c3,32c3,m34.6708;32c4,32c4,m35.6708;32c5,32c5,m36.6708;32c6,32c6,m37.6708;32c7,32c7,m38.6708;32c8,32c8,m39.6708;32c9,32c9,m31.30.6708;32ca,32ca,m31.31.6708;32cb,32cb,m31.32.6708;32cc,32cc,m68.67;32cd,32cd,m65.72.67;32ce,32ce,m65.76;32cf,32cf,m6c.74.64;32d0,32d0,m30a2;32d1,32d1,m30a4;32d2,32d2,m30a6;32d3,32d3,m30a8;32d4,32d4,m30aa;32d5,32d5,m30ab;32d6,32d6,m30ad;32d7,32d7,m30af;32d8,32d8,m30b1;32d9,32d9,m30b3;32da,32da,m30b5;32db,32db,m30b7;32dc,32dc,m30b9;32dd,32dd,m30bb;32de,32de,m30bd;32df,32df,m30bf;32e0,32e0,m30c1;32e1,32e1,m30c4;32e2,32e2,m30c6;32e3,32e3,m30c8;32e4,32e4,m30ca;32e5,32e5,m30cb;32e6,32e6,m30cc;32e7,32e7,m30cd;32e8,32e8,m30ce;32e9,32e9,m30cf;32ea,32ea,m30d2;32eb,32eb,m30d5;32ec,32ec,m30d8;32ed,32ed,m30db;32ee,32ee,m30de;32ef,32ef,m30df;32f0,32f0,m30e0;32f1,32f1,m30e1;32f2,32f2,m30e2;32f3,32f3,m30e4;32f4,32f4,m30e6;32f5,32f5,m30e8;32f6,32f6,m30e9;32f7,32f7,m30ea;32f8,32f8,m30eb;32f9,32f9,m30ec;32fa,32fa,m30ed;32fb,32fb,m30ef;32fc,32fc,m30f0;32fd,32fd,m",
    "30f1;32fe,32fe,m30f2;32ff,32ff,m4ee4.548c;3300,3300,m30a2.30d1.30fc.30c8;3301,3301,m30a2.30eb.30d5.30a1;3302,3302,m30a2.30f3.30da.30a2;3303,3303,m30a2.30fc.30eb;3304,3304,m30a4.30cb.30f3.30b0;3305,3305,m30a4.30f3.30c1;3306,3306,m30a6.30a9.30f3;3307,3307,m30a8.30b9.30af.30fc.30c9;3308,3308,m30a8.30fc.30ab.30fc;3309,3309,m30aa.30f3.30b9;330a,330a,m30aa.30fc.30e0;330b,330b,m30ab.30a4.30ea;330c,330c,m30ab.30e9.30c3.30c8;330d,330d,m30ab.30ed.30ea.30fc;330e,330e,m30ac.30ed.30f3;330f,330f,m30ac.30f3.30de;3310,3310,m30ae.30ac;3311,3311,m30ae.30cb.30fc;3312,3312,m30ad.30e5.30ea.30fc;3313,3313,m30ae.30eb.30c0.30fc;3314,3314,m30ad.30ed;3315,3315,m30ad.30ed.30b0.30e9.30e0;3316,3316,m30ad.30ed.30e1.30fc.30c8.30eb;3317,3317,m30ad.30ed.30ef.30c3.30c8;3318,3318,m30b0.30e9.30e0;3319,3319,m30b0.30e9.30e0.30c8.30f3;331a,331a,m30af.30eb.30bc.30a4.30ed;331b,331b,m30af.30ed.30fc.30cd;331c,331c,m30b1.30fc.30b9;331d,331d,m30b3.30eb.30ca;331e,331e,m30b3.30fc.30dd;331f,331f,m30b5.30a4.30af.30eb;3320,3320,m30b5.",
    "30f3.30c1.30fc.30e0;3321,3321,m30b7.30ea.30f3.30b0;3322,3322,m30bb.30f3.30c1;3323,3323,m30bb.30f3.30c8;3324,3324,m30c0.30fc.30b9;3325,3325,m30c7.30b7;3326,3326,m30c9.30eb;3327,3327,m30c8.30f3;3328,3328,m30ca.30ce;3329,3329,m30ce.30c3.30c8;332a,332a,m30cf.30a4.30c4;332b,332b,m30d1.30fc.30bb.30f3.30c8;332c,332c,m30d1.30fc.30c4;332d,332d,m30d0.30fc.30ec.30eb;332e,332e,m30d4.30a2.30b9.30c8.30eb;332f,332f,m30d4.30af.30eb;3330,3330,m30d4.30b3;3331,3331,m30d3.30eb;3332,3332,m30d5.30a1.30e9.30c3.30c9;3333,3333,m30d5.30a3.30fc.30c8;3334,3334,m30d6.30c3.30b7.30a7.30eb;3335,3335,m30d5.30e9.30f3;3336,3336,m30d8.30af.30bf.30fc.30eb;3337,3337,m30da.30bd;3338,3338,m30da.30cb.30d2;3339,3339,m30d8.30eb.30c4;333a,333a,m30da.30f3.30b9;333b,333b,m30da.30fc.30b8;333c,333c,m30d9.30fc.30bf;333d,333d,m30dd.30a4.30f3.30c8;333e,333e,m30dc.30eb.30c8;333f,333f,m30db.30f3;3340,3340,m30dd.30f3.30c9;3341,3341,m30db.30fc.30eb;3342,3342,m30db.30fc.30f3;3343,3343,m30de.30a4.30af.30ed;3344,3344,m30de.30a4.30eb;3345,3345",
    ",m30de.30c3.30cf;3346,3346,m30de.30eb.30af;3347,3347,m30de.30f3.30b7.30e7.30f3;3348,3348,m30df.30af.30ed.30f3;3349,3349,m30df.30ea;334a,334a,m30df.30ea.30d0.30fc.30eb;334b,334b,m30e1.30ac;334c,334c,m30e1.30ac.30c8.30f3;334d,334d,m30e1.30fc.30c8.30eb;334e,334e,m30e4.30fc.30c9;334f,334f,m30e4.30fc.30eb;3350,3350,m30e6.30a2.30f3;3351,3351,m30ea.30c3.30c8.30eb;3352,3352,m30ea.30e9;3353,3353,m30eb.30d4.30fc;3354,3354,m30eb.30fc.30d6.30eb;3355,3355,m30ec.30e0;3356,3356,m30ec.30f3.30c8.30b2.30f3;3357,3357,m30ef.30c3.30c8;3358,3358,m30.70b9;3359,3359,m31.70b9;335a,335a,m32.70b9;335b,335b,m33.70b9;335c,335c,m34.70b9;335d,335d,m35.70b9;335e,335e,m36.70b9;335f,335f,m37.70b9;3360,3360,m38.70b9;3361,3361,m39.70b9;3362,3362,m31.30.70b9;3363,3363,m31.31.70b9;3364,3364,m31.32.70b9;3365,3365,m31.33.70b9;3366,3366,m31.34.70b9;3367,3367,m31.35.70b9;3368,3368,m31.36.70b9;3369,3369,m31.37.70b9;336a,336a,m31.38.70b9;336b,336b,m31.39.70b9;336c,336c,m32.30.70b9;336d,336d,m32.31.70b9;336e,336e,m32.32.70b9;336f",
    ",336f,m32.33.70b9;3370,3370,m32.34.70b9;3371,3371,m68.70.61;3372,3372,m64.61;3373,3373,m61.75;3374,3374,m62.61.72;3375,3375,m6f.76;3376,3376,m70.63;3377,3377,m64.6d;3378,3378,m64.6d.32;3379,3379,m64.6d.33;337a,337a,m69.75;337b,337b,m5e73.6210;337c,337c,m662d.548c;337d,337d,m5927.6b63;337e,337e,m660e.6cbb;337f,337f,m682a.5f0f.4f1a.793e;3380,3380,m70.61;3381,3381,m6e.61;3382,3382,m3bc.61;3383,3383,m6d.61;3384,3384,m6b.61;3385,3385,m6b.62;3386,3386,m6d.62;3387,3387,m67.62;3388,3388,m63.61.6c;3389,3389,m6b.63.61.6c;338a,338a,m70.66;338b,338b,m6e.66;338c,338c,m3bc.66;338d,338d,m3bc.67;338e,338e,m6d.67;338f,338f,m6b.67;3390,3390,m68.7a;3391,3391,m6b.68.7a;3392,3392,m6d.68.7a;3393,3393,m67.68.7a;3394,3394,m74.68.7a;3395,3395,m3bc.6c;3396,3396,m6d.6c;3397,3397,m64.6c;3398,3398,m6b.6c;3399,3399,m66.6d;339a,339a,m6e.6d;339b,339b,m3bc.6d;339c,339c,m6d.6d;339d,339d,m63.6d;339e,339e,m6b.6d;339f,339f,m6d.6d.32;33a0,33a0,m63.6d.32;33a1,33a1,m6d.32;33a2,33a2,m6b.6d.32;33a3,33a3,m6d.6d.33;33a4,33a4,m63",
    ".6d.33;33a5,33a5,m6d.33;33a6,33a6,m6b.6d.33;33a7,33a7,m6d.2215.73;33a8,33a8,m6d.2215.73.32;33a9,33a9,m70.61;33aa,33aa,m6b.70.61;33ab,33ab,m6d.70.61;33ac,33ac,m67.70.61;33ad,33ad,m72.61.64;33ae,33ae,m72.61.64.2215.73;33af,33af,m72.61.64.2215.73.32;33b0,33b0,m70.73;33b1,33b1,m6e.73;33b2,33b2,m3bc.73;33b3,33b3,m6d.73;33b4,33b4,m70.76;33b5,33b5,m6e.76;33b6,33b6,m3bc.76;33b7,33b7,m6d.76;33b8,33b8,m6b.76;33b9,33b9,m6d.76;33ba,33ba,m70.77;33bb,33bb,m6e.77;33bc,33bc,m3bc.77;33bd,33bd,m6d.77;33be,33be,m6b.77;33bf,33bf,m6d.77;33c0,33c0,m6b.3c9;33c1,33c1,m6d.3c9;33c2,33c2,x;33c3,33c3,m62.71;33c4,33c4,m63.63;33c5,33c5,m63.64;33c6,33c6,m63.2215.6b.67;33c7,33c7,x;33c8,33c8,m64.62;33c9,33c9,m67.79;33ca,33ca,m68.61;33cb,33cb,m68.70;33cc,33cc,m69.6e;33cd,33cd,m6b.6b;33ce,33ce,m6b.6d;33cf,33cf,m6b.74;33d0,33d0,m6c.6d;33d1,33d1,m6c.6e;33d2,33d2,m6c.6f.67;33d3,33d3,m6c.78;33d4,33d4,m6d.62;33d5,33d5,m6d.69.6c;33d6,33d6,m6d.6f.6c;33d7,33d7,m70.68;33d8,33d8,x;33d9,33d9,m70.70.6d;33da,33da,m70.72;33db,33db,m7",
    "3.72;33dc,33dc,m73.76;33dd,33dd,m77.62;33de,33de,m76.2215.6d;33df,33df,m61.2215.6d;33e0,33e0,m31.65e5;33e1,33e1,m32.65e5;33e2,33e2,m33.65e5;33e3,33e3,m34.65e5;33e4,33e4,m35.65e5;33e5,33e5,m36.65e5;33e6,33e6,m37.65e5;33e7,33e7,m38.65e5;33e8,33e8,m39.65e5;33e9,33e9,m31.30.65e5;33ea,33ea,m31.31.65e5;33eb,33eb,m31.32.65e5;33ec,33ec,m31.33.65e5;33ed,33ed,m31.34.65e5;33ee,33ee,m31.35.65e5;33ef,33ef,m31.36.65e5;33f0,33f0,m31.37.65e5;33f1,33f1,m31.38.65e5;33f2,33f2,m31.39.65e5;33f3,33f3,m32.30.65e5;33f4,33f4,m32.31.65e5;33f5,33f5,m32.32.65e5;33f6,33f6,m32.33.65e5;33f7,33f7,m32.34.65e5;33f8,33f8,m32.35.65e5;33f9,33f9,m32.36.65e5;33fa,33fa,m32.37.65e5;33fb,33fb,m32.38.65e5;33fc,33fc,m32.39.65e5;33fd,33fd,m33.30.65e5;33fe,33fe,m33.31.65e5;33ff,33ff,m67.61.6c;a48d,a48f,x;a4c7,a4cf,x;a62c,a63f,x;a640,a640,ma641;a642,a642,ma643;a644,a644,ma645;a646,a646,ma647;a648,a648,ma649;a64a,a64a,ma64b;a64c,a64c,ma64d;a64e,a64e,ma64f;a650,a650,ma651;a652,a652,ma653;a654,a654,ma655;a656,a656,ma657;a658,a658,ma65",
    "9;a65a,a65a,ma65b;a65c,a65c,ma65d;a65e,a65e,ma65f;a660,a660,ma661;a662,a662,ma663;a664,a664,ma665;a666,a666,ma667;a668,a668,ma669;a66a,a66a,ma66b;a66c,a66c,ma66d;a680,a680,ma681;a682,a682,ma683;a684,a684,ma685;a686,a686,ma687;a688,a688,ma689;a68a,a68a,ma68b;a68c,a68c,ma68d;a68e,a68e,ma68f;a690,a690,ma691;a692,a692,ma693;a694,a694,ma695;a696,a696,ma697;a698,a698,ma699;a69a,a69a,ma69b;a69c,a69c,m44a;a69d,a69d,m44c;a6f8,a6ff,x;a722,a722,ma723;a724,a724,ma725;a726,a726,ma727;a728,a728,ma729;a72a,a72a,ma72b;a72c,a72c,ma72d;a72e,a72e,ma72f;a732,a732,ma733;a734,a734,ma735;a736,a736,ma737;a738,a738,ma739;a73a,a73a,ma73b;a73c,a73c,ma73d;a73e,a73e,ma73f;a740,a740,ma741;a742,a742,ma743;a744,a744,ma745;a746,a746,ma747;a748,a748,ma749;a74a,a74a,ma74b;a74c,a74c,ma74d;a74e,a74e,ma74f;a750,a750,ma751;a752,a752,ma753;a754,a754,ma755;a756,a756,ma757;a758,a758,ma759;a75a,a75a,ma75b;a75c,a75c,ma75d;a75e,a75e,ma75f;a760,a760,ma761;a762,a762,ma763;a764,a764,ma765;a766,a766,ma767;a768,a768,ma769;a76a,a76a,ma",
    "76b;a76c,a76c,ma76d;a76e,a76e,ma76f;a770,a770,ma76f;a779,a779,ma77a;a77b,a77b,ma77c;a77d,a77d,m1d79;a77e,a77e,ma77f;a780,a780,ma781;a782,a782,ma783;a784,a784,ma785;a786,a786,ma787;a78b,a78b,ma78c;a78d,a78d,m265;a790,a790,ma791;a792,a792,ma793;a796,a796,ma797;a798,a798,ma799;a79a,a79a,ma79b;a79c,a79c,ma79d;a79e,a79e,ma79f;a7a0,a7a0,ma7a1;a7a2,a7a2,ma7a3;a7a4,a7a4,ma7a5;a7a6,a7a6,ma7a7;a7a8,a7a8,ma7a9;a7aa,a7aa,m266;a7ab,a7ab,m25c;a7ac,a7ac,m261;a7ad,a7ad,m26c;a7ae,a7ae,m26a;a7b0,a7b0,m29e;a7b1,a7b1,m287;a7b2,a7b2,m29d;a7b3,a7b3,mab53;a7b4,a7b4,ma7b5;a7b6,a7b6,ma7b7;a7b8,a7b8,ma7b9;a7ba,a7ba,ma7bb;a7bc,a7bc,ma7bd;a7be,a7be,ma7bf;a7c0,a7c0,ma7c1;a7c2,a7c2,ma7c3;a7c4,a7c4,ma794;a7c5,a7c5,m282;a7c6,a7c6,m1d8e;a7c7,a7c7,ma7c8;a7c9,a7c9,ma7ca;a7cb,a7cb,m264;a7cc,a7cc,ma7cd;a7ce,a7ce,ma7cf;a7d0,a7d0,ma7d1;a7d2,a7d2,ma7d3;a7d4,a7d4,ma7d5;a7d6,a7d6,ma7d7;a7d8,a7d8,ma7d9;a7da,a7da,ma7db;a7dc,a7dc,m19b;a7dd,a7f0,x;a7f1,a7f1,m73;a7f2,a7f2,m63;a7f3,a7f3,m66;a7f4,a7f4,m71;a7f5,a7f5,ma7f6;a7f8,a7f8,m1",
    "27;a7f9,a7f9,m153;a82d,a82f,x;a83a,a83f,x;a878,a87f,x;a8c6,a8cd,x;a8da,a8df,x;a954,a95e,x;a97d,a97f,x;a9ce,a9ce,x;a9da,a9dd,x;a9ff,a9ff,x;aa37,aa3f,x;aa4e,aa4f,x;aa5a,aa5b,x;aac3,aada,x;aaf7,ab00,x;ab07,ab08,x;ab0f,ab10,x;ab17,ab1f,x;ab27,ab27,x;ab2f,ab2f,x;ab5c,ab5c,ma727;ab5d,ab5d,mab37;ab5e,ab5e,m26b;ab5f,ab5f,mab52;ab69,ab69,m28d;ab6c,ab6f,x;ab70,ab70,m13a0;ab71,ab71,m13a1;ab72,ab72,m13a2;ab73,ab73,m13a3;ab74,ab74,m13a4;ab75,ab75,m13a5;ab76,ab76,m13a6;ab77,ab77,m13a7;ab78,ab78,m13a8;ab79,ab79,m13a9;ab7a,ab7a,m13aa;ab7b,ab7b,m13ab;ab7c,ab7c,m13ac;ab7d,ab7d,m13ad;ab7e,ab7e,m13ae;ab7f,ab7f,m13af;ab80,ab80,m13b0;ab81,ab81,m13b1;ab82,ab82,m13b2;ab83,ab83,m13b3;ab84,ab84,m13b4;ab85,ab85,m13b5;ab86,ab86,m13b6;ab87,ab87,m13b7;ab88,ab88,m13b8;ab89,ab89,m13b9;ab8a,ab8a,m13ba;ab8b,ab8b,m13bb;ab8c,ab8c,m13bc;ab8d,ab8d,m13bd;ab8e,ab8e,m13be;ab8f,ab8f,m13bf;ab90,ab90,m13c0;ab91,ab91,m13c1;ab92,ab92,m13c2;ab93,ab93,m13c3;ab94,ab94,m13c4;ab95,ab95,m13c5;ab96,ab96,m13c6;ab97,ab97,m13c7;ab98,ab98,m1",
    "3c8;ab99,ab99,m13c9;ab9a,ab9a,m13ca;ab9b,ab9b,m13cb;ab9c,ab9c,m13cc;ab9d,ab9d,m13cd;ab9e,ab9e,m13ce;ab9f,ab9f,m13cf;aba0,aba0,m13d0;aba1,aba1,m13d1;aba2,aba2,m13d2;aba3,aba3,m13d3;aba4,aba4,m13d4;aba5,aba5,m13d5;aba6,aba6,m13d6;aba7,aba7,m13d7;aba8,aba8,m13d8;aba9,aba9,m13d9;abaa,abaa,m13da;abab,abab,m13db;abac,abac,m13dc;abad,abad,m13dd;abae,abae,m13de;abaf,abaf,m13df;abb0,abb0,m13e0;abb1,abb1,m13e1;abb2,abb2,m13e2;abb3,abb3,m13e3;abb4,abb4,m13e4;abb5,abb5,m13e5;abb6,abb6,m13e6;abb7,abb7,m13e7;abb8,abb8,m13e8;abb9,abb9,m13e9;abba,abba,m13ea;abbb,abbb,m13eb;abbc,abbc,m13ec;abbd,abbd,m13ed;abbe,abbe,m13ee;abbf,abbf,m13ef;abee,abef,x;abfa,abff,x;d7a4,d7af,x;d7c7,d7ca,x;d7fc,f8ff,x;f900,f900,m8c48;f901,f901,m66f4;f902,f902,m8eca;f903,f903,m8cc8;f904,f904,m6ed1;f905,f905,m4e32;f906,f906,m53e5;f907,f908,m9f9c;f909,f909,m5951;f90a,f90a,m91d1;f90b,f90b,m5587;f90c,f90c,m5948;f90d,f90d,m61f6;f90e,f90e,m7669;f90f,f90f,m7f85;f910,f910,m863f;f911,f911,m87ba;f912,f912,m88f8;f913,f913,m908f;f914,f91",
    "4,m6a02;f915,f915,m6d1b;f916,f916,m70d9;f917,f917,m73de;f918,f918,m843d;f919,f919,m916a;f91a,f91a,m99f1;f91b,f91b,m4e82;f91c,f91c,m5375;f91d,f91d,m6b04;f91e,f91e,m721b;f91f,f91f,m862d;f920,f920,m9e1e;f921,f921,m5d50;f922,f922,m6feb;f923,f923,m85cd;f924,f924,m8964;f925,f925,m62c9;f926,f926,m81d8;f927,f927,m881f;f928,f928,m5eca;f929,f929,m6717;f92a,f92a,m6d6a;f92b,f92b,m72fc;f92c,f92c,m90ce;f92d,f92d,m4f86;f92e,f92e,m51b7;f92f,f92f,m52de;f930,f930,m64c4;f931,f931,m6ad3;f932,f932,m7210;f933,f933,m76e7;f934,f934,m8001;f935,f935,m8606;f936,f936,m865c;f937,f937,m8def;f938,f938,m9732;f939,f939,m9b6f;f93a,f93a,m9dfa;f93b,f93b,m788c;f93c,f93c,m797f;f93d,f93d,m7da0;f93e,f93e,m83c9;f93f,f93f,m9304;f940,f940,m9e7f;f941,f941,m8ad6;f942,f942,m58df;f943,f943,m5f04;f944,f944,m7c60;f945,f945,m807e;f946,f946,m7262;f947,f947,m78ca;f948,f948,m8cc2;f949,f949,m96f7;f94a,f94a,m58d8;f94b,f94b,m5c62;f94c,f94c,m6a13;f94d,f94d,m6dda;f94e,f94e,m6f0f;f94f,f94f,m7d2f;f950,f950,m7e37;f951,f951,m964b;f952,f952,m52d2;",
    "f953,f953,m808b;f954,f954,m51dc;f955,f955,m51cc;f956,f956,m7a1c;f957,f957,m7dbe;f958,f958,m83f1;f959,f959,m9675;f95a,f95a,m8b80;f95b,f95b,m62cf;f95c,f95c,m6a02;f95d,f95d,m8afe;f95e,f95e,m4e39;f95f,f95f,m5be7;f960,f960,m6012;f961,f961,m7387;f962,f962,m7570;f963,f963,m5317;f964,f964,m78fb;f965,f965,m4fbf;f966,f966,m5fa9;f967,f967,m4e0d;f968,f968,m6ccc;f969,f969,m6578;f96a,f96a,m7d22;f96b,f96b,m53c3;f96c,f96c,m585e;f96d,f96d,m7701;f96e,f96e,m8449;f96f,f96f,m8aaa;f970,f970,m6bba;f971,f971,m8fb0;f972,f972,m6c88;f973,f973,m62fe;f974,f974,m82e5;f975,f975,m63a0;f976,f976,m7565;f977,f977,m4eae;f978,f978,m5169;f979,f979,m51c9;f97a,f97a,m6881;f97b,f97b,m7ce7;f97c,f97c,m826f;f97d,f97d,m8ad2;f97e,f97e,m91cf;f97f,f97f,m52f5;f980,f980,m5442;f981,f981,m5973;f982,f982,m5eec;f983,f983,m65c5;f984,f984,m6ffe;f985,f985,m792a;f986,f986,m95ad;f987,f987,m9a6a;f988,f988,m9e97;f989,f989,m9ece;f98a,f98a,m529b;f98b,f98b,m66c6;f98c,f98c,m6b77;f98d,f98d,m8f62;f98e,f98e,m5e74;f98f,f98f,m6190;f990,f990,m6200;f991,f99",
    "1,m649a;f992,f992,m6f23;f993,f993,m7149;f994,f994,m7489;f995,f995,m79ca;f996,f996,m7df4;f997,f997,m806f;f998,f998,m8f26;f999,f999,m84ee;f99a,f99a,m9023;f99b,f99b,m934a;f99c,f99c,m5217;f99d,f99d,m52a3;f99e,f99e,m54bd;f99f,f99f,m70c8;f9a0,f9a0,m88c2;f9a1,f9a1,m8aaa;f9a2,f9a2,m5ec9;f9a3,f9a3,m5ff5;f9a4,f9a4,m637b;f9a5,f9a5,m6bae;f9a6,f9a6,m7c3e;f9a7,f9a7,m7375;f9a8,f9a8,m4ee4;f9a9,f9a9,m56f9;f9aa,f9aa,m5be7;f9ab,f9ab,m5dba;f9ac,f9ac,m601c;f9ad,f9ad,m73b2;f9ae,f9ae,m7469;f9af,f9af,m7f9a;f9b0,f9b0,m8046;f9b1,f9b1,m9234;f9b2,f9b2,m96f6;f9b3,f9b3,m9748;f9b4,f9b4,m9818;f9b5,f9b5,m4f8b;f9b6,f9b6,m79ae;f9b7,f9b7,m91b4;f9b8,f9b8,m96b8;f9b9,f9b9,m60e1;f9ba,f9ba,m4e86;f9bb,f9bb,m50da;f9bc,f9bc,m5bee;f9bd,f9bd,m5c3f;f9be,f9be,m6599;f9bf,f9bf,m6a02;f9c0,f9c0,m71ce;f9c1,f9c1,m7642;f9c2,f9c2,m84fc;f9c3,f9c3,m907c;f9c4,f9c4,m9f8d;f9c5,f9c5,m6688;f9c6,f9c6,m962e;f9c7,f9c7,m5289;f9c8,f9c8,m677b;f9c9,f9c9,m67f3;f9ca,f9ca,m6d41;f9cb,f9cb,m6e9c;f9cc,f9cc,m7409;f9cd,f9cd,m7559;f9ce,f9ce,m786b;f9cf,f9cf,m7d10;",
    "f9d0,f9d0,m985e;f9d1,f9d1,m516d;f9d2,f9d2,m622e;f9d3,f9d3,m9678;f9d4,f9d4,m502b;f9d5,f9d5,m5d19;f9d6,f9d6,m6dea;f9d7,f9d7,m8f2a;f9d8,f9d8,m5f8b;f9d9,f9d9,m6144;f9da,f9da,m6817;f9db,f9db,m7387;f9dc,f9dc,m9686;f9dd,f9dd,m5229;f9de,f9de,m540f;f9df,f9df,m5c65;f9e0,f9e0,m6613;f9e1,f9e1,m674e;f9e2,f9e2,m68a8;f9e3,f9e3,m6ce5;f9e4,f9e4,m7406;f9e5,f9e5,m75e2;f9e6,f9e6,m7f79;f9e7,f9e7,m88cf;f9e8,f9e8,m88e1;f9e9,f9e9,m91cc;f9ea,f9ea,m96e2;f9eb,f9eb,m533f;f9ec,f9ec,m6eba;f9ed,f9ed,m541d;f9ee,f9ee,m71d0;f9ef,f9ef,m7498;f9f0,f9f0,m85fa;f9f1,f9f1,m96a3;f9f2,f9f2,m9c57;f9f3,f9f3,m9e9f;f9f4,f9f4,m6797;f9f5,f9f5,m6dcb;f9f6,f9f6,m81e8;f9f7,f9f7,m7acb;f9f8,f9f8,m7b20;f9f9,f9f9,m7c92;f9fa,f9fa,m72c0;f9fb,f9fb,m7099;f9fc,f9fc,m8b58;f9fd,f9fd,m4ec0;f9fe,f9fe,m8336;f9ff,f9ff,m523a;fa00,fa00,m5207;fa01,fa01,m5ea6;fa02,fa02,m62d3;fa03,fa03,m7cd6;fa04,fa04,m5b85;fa05,fa05,m6d1e;fa06,fa06,m66b4;fa07,fa07,m8f3b;fa08,fa08,m884c;fa09,fa09,m964d;fa0a,fa0a,m898b;fa0b,fa0b,m5ed3;fa0c,fa0c,m5140;fa0d,fa0d,m55c0;fa10,fa1",
    "0,m585a;fa12,fa12,m6674;fa15,fa15,m51de;fa16,fa16,m732a;fa17,fa17,m76ca;fa18,fa18,m793c;fa19,fa19,m795e;fa1a,fa1a,m7965;fa1b,fa1b,m798f;fa1c,fa1c,m9756;fa1d,fa1d,m7cbe;fa1e,fa1e,m7fbd;fa20,fa20,m8612;fa22,fa22,m8af8;fa25,fa25,m9038;fa26,fa26,m90fd;fa2a,fa2a,m98ef;fa2b,fa2b,m98fc;fa2c,fa2c,m9928;fa2d,fa2d,m9db4;fa2e,fa2e,m90de;fa2f,fa2f,m96b7;fa30,fa30,m4fae;fa31,fa31,m50e7;fa32,fa32,m514d;fa33,fa33,m52c9;fa34,fa34,m52e4;fa35,fa35,m5351;fa36,fa36,m559d;fa37,fa37,m5606;fa38,fa38,m5668;fa39,fa39,m5840;fa3a,fa3a,m58a8;fa3b,fa3b,m5c64;fa3c,fa3c,m5c6e;fa3d,fa3d,m6094;fa3e,fa3e,m6168;fa3f,fa3f,m618e;fa40,fa40,m61f2;fa41,fa41,m654f;fa42,fa42,m65e2;fa43,fa43,m6691;fa44,fa44,m6885;fa45,fa45,m6d77;fa46,fa46,m6e1a;fa47,fa47,m6f22;fa48,fa48,m716e;fa49,fa49,m722b;fa4a,fa4a,m7422;fa4b,fa4b,m7891;fa4c,fa4c,m793e;fa4d,fa4d,m7949;fa4e,fa4e,m7948;fa4f,fa4f,m7950;fa50,fa50,m7956;fa51,fa51,m795d;fa52,fa52,m798d;fa53,fa53,m798e;fa54,fa54,m7a40;fa55,fa55,m7a81;fa56,fa56,m7bc0;fa57,fa57,m7df4;fa58,fa58,m7e09;",
    "fa59,fa59,m7e41;fa5a,fa5a,m7f72;fa5b,fa5b,m8005;fa5c,fa5c,m81ed;fa5d,fa5e,m8279;fa5f,fa5f,m8457;fa60,fa60,m8910;fa61,fa61,m8996;fa62,fa62,m8b01;fa63,fa63,m8b39;fa64,fa64,m8cd3;fa65,fa65,m8d08;fa66,fa66,m8fb6;fa67,fa67,m9038;fa68,fa68,m96e3;fa69,fa69,m97ff;fa6a,fa6a,m983b;fa6b,fa6b,m6075;fa6c,fa6c,m242ee;fa6d,fa6d,m8218;fa6e,fa6f,x;fa70,fa70,m4e26;fa71,fa71,m51b5;fa72,fa72,m5168;fa73,fa73,m4f80;fa74,fa74,m5145;fa75,fa75,m5180;fa76,fa76,m52c7;fa77,fa77,m52fa;fa78,fa78,m559d;fa79,fa79,m5555;fa7a,fa7a,m5599;fa7b,fa7b,m55e2;fa7c,fa7c,m585a;fa7d,fa7d,m58b3;fa7e,fa7e,m5944;fa7f,fa7f,m5954;fa80,fa80,m5a62;fa81,fa81,m5b28;fa82,fa82,m5ed2;fa83,fa83,m5ed9;fa84,fa84,m5f69;fa85,fa85,m5fad;fa86,fa86,m60d8;fa87,fa87,m614e;fa88,fa88,m6108;fa89,fa89,m618e;fa8a,fa8a,m6160;fa8b,fa8b,m61f2;fa8c,fa8c,m6234;fa8d,fa8d,m63c4;fa8e,fa8e,m641c;fa8f,fa8f,m6452;fa90,fa90,m6556;fa91,fa91,m6674;fa92,fa92,m6717;fa93,fa93,m671b;fa94,fa94,m6756;fa95,fa95,m6b79;fa96,fa96,m6bba;fa97,fa97,m6d41;fa98,fa98,m6edb;fa99,fa99,m",
    "6ecb;fa9a,fa9a,m6f22;fa9b,fa9b,m701e;fa9c,fa9c,m716e;fa9d,fa9d,m77a7;fa9e,fa9e,m7235;fa9f,fa9f,m72af;faa0,faa0,m732a;faa1,faa1,m7471;faa2,faa2,m7506;faa3,faa3,m753b;faa4,faa4,m761d;faa5,faa5,m761f;faa6,faa6,m76ca;faa7,faa7,m76db;faa8,faa8,m76f4;faa9,faa9,m774a;faaa,faaa,m7740;faab,faab,m78cc;faac,faac,m7ab1;faad,faad,m7bc0;faae,faae,m7c7b;faaf,faaf,m7d5b;fab0,fab0,m7df4;fab1,fab1,m7f3e;fab2,fab2,m8005;fab3,fab3,m8352;fab4,fab4,m83ef;fab5,fab5,m8779;fab6,fab6,m8941;fab7,fab7,m8986;fab8,fab8,m8996;fab9,fab9,m8abf;faba,faba,m8af8;fabb,fabb,m8acb;fabc,fabc,m8b01;fabd,fabd,m8afe;fabe,fabe,m8aed;fabf,fabf,m8b39;fac0,fac0,m8b8a;fac1,fac1,m8d08;fac2,fac2,m8f38;fac3,fac3,m9072;fac4,fac4,m9199;fac5,fac5,m9276;fac6,fac6,m967c;fac7,fac7,m96e3;fac8,fac8,m9756;fac9,fac9,m97db;faca,faca,m97ff;facb,facb,m980b;facc,facc,m983b;facd,facd,m9b12;face,face,m9f9c;facf,facf,m2284a;fad0,fad0,m22844;fad1,fad1,m233d5;fad2,fad2,m3b9d;fad3,fad3,m4018;fad4,fad4,m4039;fad5,fad5,m25249;fad6,fad6,m25cd0;fad7,fad7,m27e",
    "d3;fad8,fad8,m9f43;fad9,fad9,m9f8e;fada,faff,x;fb00,fb00,m66.66;fb01,fb01,m66.69;fb02,fb02,m66.6c;fb03,fb03,m66.66.69;fb04,fb04,m66.66.6c;fb05,fb06,m73.74;fb07,fb12,x;fb13,fb13,m574.576;fb14,fb14,m574.565;fb15,fb15,m574.56b;fb16,fb16,m57e.576;fb17,fb17,m574.56d;fb18,fb1c,x;fb1d,fb1d,m5d9.5b4;fb1f,fb1f,m5f2.5b7;fb20,fb20,m5e2;fb21,fb21,m5d0;fb22,fb22,m5d3;fb23,fb23,m5d4;fb24,fb24,m5db;fb25,fb25,m5dc;fb26,fb26,m5dd;fb27,fb27,m5e8;fb28,fb28,m5ea;fb29,fb29,m2b;fb2a,fb2a,m5e9.5c1;fb2b,fb2b,m5e9.5c2;fb2c,fb2c,m5e9.5bc.5c1;fb2d,fb2d,m5e9.5bc.5c2;fb2e,fb2e,m5d0.5b7;fb2f,fb2f,m5d0.5b8;fb30,fb30,m5d0.5bc;fb31,fb31,m5d1.5bc;fb32,fb32,m5d2.5bc;fb33,fb33,m5d3.5bc;fb34,fb34,m5d4.5bc;fb35,fb35,m5d5.5bc;fb36,fb36,m5d6.5bc;fb37,fb37,x;fb38,fb38,m5d8.5bc;fb39,fb39,m5d9.5bc;fb3a,fb3a,m5da.5bc;fb3b,fb3b,m5db.5bc;fb3c,fb3c,m5dc.5bc;fb3d,fb3d,x;fb3e,fb3e,m5de.5bc;fb3f,fb3f,x;fb40,fb40,m5e0.5bc;fb41,fb41,m5e1.5bc;fb42,fb42,x;fb43,fb43,m5e3.5bc;fb44,fb44,m5e4.5bc;fb45,fb45,x;fb46,fb46,m5e6.5bc;fb47,fb47,m5e7.",
    "5bc;fb48,fb48,m5e8.5bc;fb49,fb49,m5e9.5bc;fb4a,fb4a,m5ea.5bc;fb4b,fb4b,m5d5.5b9;fb4c,fb4c,m5d1.5bf;fb4d,fb4d,m5db.5bf;fb4e,fb4e,m5e4.5bf;fb4f,fb4f,m5d0.5dc;fb50,fb51,m671;fb52,fb55,m67b;fb56,fb59,m67e;fb5a,fb5d,m680;fb5e,fb61,m67a;fb62,fb65,m67f;fb66,fb69,m679;fb6a,fb6d,m6a4;fb6e,fb71,m6a6;fb72,fb75,m684;fb76,fb79,m683;fb7a,fb7d,m686;fb7e,fb81,m687;fb82,fb83,m68d;fb84,fb85,m68c;fb86,fb87,m68e;fb88,fb89,m688;fb8a,fb8b,m698;fb8c,fb8d,m691;fb8e,fb91,m6a9;fb92,fb95,m6af;fb96,fb99,m6b3;fb9a,fb9d,m6b1;fb9e,fb9f,m6ba;fba0,fba3,m6bb;fba4,fba5,m6c0;fba6,fba9,m6c1;fbaa,fbad,m6be;fbae,fbaf,m6d2;fbb0,fbb1,m6d3;fbd3,fbd6,m6ad;fbd7,fbd8,m6c7;fbd9,fbda,m6c6;fbdb,fbdc,m6c8;fbdd,fbdd,m6c7.674;fbde,fbdf,m6cb;fbe0,fbe1,m6c5;fbe2,fbe3,m6c9;fbe4,fbe7,m6d0;fbe8,fbe9,m649;fbea,fbeb,m626.627;fbec,fbed,m626.6d5;fbee,fbef,m626.648;fbf0,fbf1,m626.6c7;fbf2,fbf3,m626.6c6;fbf4,fbf5,m626.6c8;fbf6,fbf8,m626.6d0;fbf9,fbfb,m626.649;fbfc,fbff,m6cc;fc00,fc00,m626.62c;fc01,fc01,m626.62d;fc02,fc02,m626.645;fc03,fc03,m626.6",
    "49;fc04,fc04,m626.64a;fc05,fc05,m628.62c;fc06,fc06,m628.62d;fc07,fc07,m628.62e;fc08,fc08,m628.645;fc09,fc09,m628.649;fc0a,fc0a,m628.64a;fc0b,fc0b,m62a.62c;fc0c,fc0c,m62a.62d;fc0d,fc0d,m62a.62e;fc0e,fc0e,m62a.645;fc0f,fc0f,m62a.649;fc10,fc10,m62a.64a;fc11,fc11,m62b.62c;fc12,fc12,m62b.645;fc13,fc13,m62b.649;fc14,fc14,m62b.64a;fc15,fc15,m62c.62d;fc16,fc16,m62c.645;fc17,fc17,m62d.62c;fc18,fc18,m62d.645;fc19,fc19,m62e.62c;fc1a,fc1a,m62e.62d;fc1b,fc1b,m62e.645;fc1c,fc1c,m633.62c;fc1d,fc1d,m633.62d;fc1e,fc1e,m633.62e;fc1f,fc1f,m633.645;fc20,fc20,m635.62d;fc21,fc21,m635.645;fc22,fc22,m636.62c;fc23,fc23,m636.62d;fc24,fc24,m636.62e;fc25,fc25,m636.645;fc26,fc26,m637.62d;fc27,fc27,m637.645;fc28,fc28,m638.645;fc29,fc29,m639.62c;fc2a,fc2a,m639.645;fc2b,fc2b,m63a.62c;fc2c,fc2c,m63a.645;fc2d,fc2d,m641.62c;fc2e,fc2e,m641.62d;fc2f,fc2f,m641.62e;fc30,fc30,m641.645;fc31,fc31,m641.649;fc32,fc32,m641.64a;fc33,fc33,m642.62d;fc34,fc34,m642.645;fc35,fc35,m642.649;fc36,fc36,m642.64a;fc37,fc37,m643.627;fc38,fc38",
    ",m643.62c;fc39,fc39,m643.62d;fc3a,fc3a,m643.62e;fc3b,fc3b,m643.644;fc3c,fc3c,m643.645;fc3d,fc3d,m643.649;fc3e,fc3e,m643.64a;fc3f,fc3f,m644.62c;fc40,fc40,m644.62d;fc41,fc41,m644.62e;fc42,fc42,m644.645;fc43,fc43,m644.649;fc44,fc44,m644.64a;fc45,fc45,m645.62c;fc46,fc46,m645.62d;fc47,fc47,m645.62e;fc48,fc48,m645.645;fc49,fc49,m645.649;fc4a,fc4a,m645.64a;fc4b,fc4b,m646.62c;fc4c,fc4c,m646.62d;fc4d,fc4d,m646.62e;fc4e,fc4e,m646.645;fc4f,fc4f,m646.649;fc50,fc50,m646.64a;fc51,fc51,m647.62c;fc52,fc52,m647.645;fc53,fc53,m647.649;fc54,fc54,m647.64a;fc55,fc55,m64a.62c;fc56,fc56,m64a.62d;fc57,fc57,m64a.62e;fc58,fc58,m64a.645;fc59,fc59,m64a.649;fc5a,fc5a,m64a.64a;fc5b,fc5b,m630.670;fc5c,fc5c,m631.670;fc5d,fc5d,m649.670;fc5e,fc5e,m20.64c.651;fc5f,fc5f,m20.64d.651;fc60,fc60,m20.64e.651;fc61,fc61,m20.64f.651;fc62,fc62,m20.650.651;fc63,fc63,m20.651.670;fc64,fc64,m626.631;fc65,fc65,m626.632;fc66,fc66,m626.645;fc67,fc67,m626.646;fc68,fc68,m626.649;fc69,fc69,m626.64a;fc6a,fc6a,m628.631;fc6b,fc6b,m628.632;fc6",
    "c,fc6c,m628.645;fc6d,fc6d,m628.646;fc6e,fc6e,m628.649;fc6f,fc6f,m628.64a;fc70,fc70,m62a.631;fc71,fc71,m62a.632;fc72,fc72,m62a.645;fc73,fc73,m62a.646;fc74,fc74,m62a.649;fc75,fc75,m62a.64a;fc76,fc76,m62b.631;fc77,fc77,m62b.632;fc78,fc78,m62b.645;fc79,fc79,m62b.646;fc7a,fc7a,m62b.649;fc7b,fc7b,m62b.64a;fc7c,fc7c,m641.649;fc7d,fc7d,m641.64a;fc7e,fc7e,m642.649;fc7f,fc7f,m642.64a;fc80,fc80,m643.627;fc81,fc81,m643.644;fc82,fc82,m643.645;fc83,fc83,m643.649;fc84,fc84,m643.64a;fc85,fc85,m644.645;fc86,fc86,m644.649;fc87,fc87,m644.64a;fc88,fc88,m645.627;fc89,fc89,m645.645;fc8a,fc8a,m646.631;fc8b,fc8b,m646.632;fc8c,fc8c,m646.645;fc8d,fc8d,m646.646;fc8e,fc8e,m646.649;fc8f,fc8f,m646.64a;fc90,fc90,m649.670;fc91,fc91,m64a.631;fc92,fc92,m64a.632;fc93,fc93,m64a.645;fc94,fc94,m64a.646;fc95,fc95,m64a.649;fc96,fc96,m64a.64a;fc97,fc97,m626.62c;fc98,fc98,m626.62d;fc99,fc99,m626.62e;fc9a,fc9a,m626.645;fc9b,fc9b,m626.647;fc9c,fc9c,m628.62c;fc9d,fc9d,m628.62d;fc9e,fc9e,m628.62e;fc9f,fc9f,m628.645;fca0,fca0,m628.",
    "647;fca1,fca1,m62a.62c;fca2,fca2,m62a.62d;fca3,fca3,m62a.62e;fca4,fca4,m62a.645;fca5,fca5,m62a.647;fca6,fca6,m62b.645;fca7,fca7,m62c.62d;fca8,fca8,m62c.645;fca9,fca9,m62d.62c;fcaa,fcaa,m62d.645;fcab,fcab,m62e.62c;fcac,fcac,m62e.645;fcad,fcad,m633.62c;fcae,fcae,m633.62d;fcaf,fcaf,m633.62e;fcb0,fcb0,m633.645;fcb1,fcb1,m635.62d;fcb2,fcb2,m635.62e;fcb3,fcb3,m635.645;fcb4,fcb4,m636.62c;fcb5,fcb5,m636.62d;fcb6,fcb6,m636.62e;fcb7,fcb7,m636.645;fcb8,fcb8,m637.62d;fcb9,fcb9,m638.645;fcba,fcba,m639.62c;fcbb,fcbb,m639.645;fcbc,fcbc,m63a.62c;fcbd,fcbd,m63a.645;fcbe,fcbe,m641.62c;fcbf,fcbf,m641.62d;fcc0,fcc0,m641.62e;fcc1,fcc1,m641.645;fcc2,fcc2,m642.62d;fcc3,fcc3,m642.645;fcc4,fcc4,m643.62c;fcc5,fcc5,m643.62d;fcc6,fcc6,m643.62e;fcc7,fcc7,m643.644;fcc8,fcc8,m643.645;fcc9,fcc9,m644.62c;fcca,fcca,m644.62d;fccb,fccb,m644.62e;fccc,fccc,m644.645;fccd,fccd,m644.647;fcce,fcce,m645.62c;fccf,fccf,m645.62d;fcd0,fcd0,m645.62e;fcd1,fcd1,m645.645;fcd2,fcd2,m646.62c;fcd3,fcd3,m646.62d;fcd4,fcd4,m646.62e;fcd5,fcd",
    "5,m646.645;fcd6,fcd6,m646.647;fcd7,fcd7,m647.62c;fcd8,fcd8,m647.645;fcd9,fcd9,m647.670;fcda,fcda,m64a.62c;fcdb,fcdb,m64a.62d;fcdc,fcdc,m64a.62e;fcdd,fcdd,m64a.645;fcde,fcde,m64a.647;fcdf,fcdf,m626.645;fce0,fce0,m626.647;fce1,fce1,m628.645;fce2,fce2,m628.647;fce3,fce3,m62a.645;fce4,fce4,m62a.647;fce5,fce5,m62b.645;fce6,fce6,m62b.647;fce7,fce7,m633.645;fce8,fce8,m633.647;fce9,fce9,m634.645;fcea,fcea,m634.647;fceb,fceb,m643.644;fcec,fcec,m643.645;fced,fced,m644.645;fcee,fcee,m646.645;fcef,fcef,m646.647;fcf0,fcf0,m64a.645;fcf1,fcf1,m64a.647;fcf2,fcf2,m640.64e.651;fcf3,fcf3,m640.64f.651;fcf4,fcf4,m640.650.651;fcf5,fcf5,m637.649;fcf6,fcf6,m637.64a;fcf7,fcf7,m639.649;fcf8,fcf8,m639.64a;fcf9,fcf9,m63a.649;fcfa,fcfa,m63a.64a;fcfb,fcfb,m633.649;fcfc,fcfc,m633.64a;fcfd,fcfd,m634.649;fcfe,fcfe,m634.64a;fcff,fcff,m62d.649;fd00,fd00,m62d.64a;fd01,fd01,m62c.649;fd02,fd02,m62c.64a;fd03,fd03,m62e.649;fd04,fd04,m62e.64a;fd05,fd05,m635.649;fd06,fd06,m635.64a;fd07,fd07,m636.649;fd08,fd08,m636.64a;fd09,fd0",
    "9,m634.62c;fd0a,fd0a,m634.62d;fd0b,fd0b,m634.62e;fd0c,fd0c,m634.645;fd0d,fd0d,m634.631;fd0e,fd0e,m633.631;fd0f,fd0f,m635.631;fd10,fd10,m636.631;fd11,fd11,m637.649;fd12,fd12,m637.64a;fd13,fd13,m639.649;fd14,fd14,m639.64a;fd15,fd15,m63a.649;fd16,fd16,m63a.64a;fd17,fd17,m633.649;fd18,fd18,m633.64a;fd19,fd19,m634.649;fd1a,fd1a,m634.64a;fd1b,fd1b,m62d.649;fd1c,fd1c,m62d.64a;fd1d,fd1d,m62c.649;fd1e,fd1e,m62c.64a;fd1f,fd1f,m62e.649;fd20,fd20,m62e.64a;fd21,fd21,m635.649;fd22,fd22,m635.64a;fd23,fd23,m636.649;fd24,fd24,m636.64a;fd25,fd25,m634.62c;fd26,fd26,m634.62d;fd27,fd27,m634.62e;fd28,fd28,m634.645;fd29,fd29,m634.631;fd2a,fd2a,m633.631;fd2b,fd2b,m635.631;fd2c,fd2c,m636.631;fd2d,fd2d,m634.62c;fd2e,fd2e,m634.62d;fd2f,fd2f,m634.62e;fd30,fd30,m634.645;fd31,fd31,m633.647;fd32,fd32,m634.647;fd33,fd33,m637.645;fd34,fd34,m633.62c;fd35,fd35,m633.62d;fd36,fd36,m633.62e;fd37,fd37,m634.62c;fd38,fd38,m634.62d;fd39,fd39,m634.62e;fd3a,fd3a,m637.645;fd3b,fd3b,m638.645;fd3c,fd3d,m627.64b;fd50,fd50,m62a.62c.6",
    "45;fd51,fd52,m62a.62d.62c;fd53,fd53,m62a.62d.645;fd54,fd54,m62a.62e.645;fd55,fd55,m62a.645.62c;fd56,fd56,m62a.645.62d;fd57,fd57,m62a.645.62e;fd58,fd59,m62c.645.62d;fd5a,fd5a,m62d.645.64a;fd5b,fd5b,m62d.645.649;fd5c,fd5c,m633.62d.62c;fd5d,fd5d,m633.62c.62d;fd5e,fd5e,m633.62c.649;fd5f,fd60,m633.645.62d;fd61,fd61,m633.645.62c;fd62,fd63,m633.645.645;fd64,fd65,m635.62d.62d;fd66,fd66,m635.645.645;fd67,fd68,m634.62d.645;fd69,fd69,m634.62c.64a;fd6a,fd6b,m634.645.62e;fd6c,fd6d,m634.645.645;fd6e,fd6e,m636.62d.649;fd6f,fd70,m636.62e.645;fd71,fd72,m637.645.62d;fd73,fd73,m637.645.645;fd74,fd74,m637.645.64a;fd75,fd75,m639.62c.645;fd76,fd77,m639.645.645;fd78,fd78,m639.645.649;fd79,fd79,m63a.645.645;fd7a,fd7a,m63a.645.64a;fd7b,fd7b,m63a.645.649;fd7c,fd7d,m641.62e.645;fd7e,fd7e,m642.645.62d;fd7f,fd7f,m642.645.645;fd80,fd80,m644.62d.645;fd81,fd81,m644.62d.64a;fd82,fd82,m644.62d.649;fd83,fd84,m644.62c.62c;fd85,fd86,m644.62e.645;fd87,fd88,m644.645.62d;fd89,fd89,m645.62d.62c;fd8a,fd8a,m645.62d.645;fd8b,fd8",
    "b,m645.62d.64a;fd8c,fd8c,m645.62c.62d;fd8d,fd8d,m645.62c.645;fd8e,fd8e,m645.62e.62c;fd8f,fd8f,m645.62e.645;fd92,fd92,m645.62c.62e;fd93,fd93,m647.645.62c;fd94,fd94,m647.645.645;fd95,fd95,m646.62d.645;fd96,fd96,m646.62d.649;fd97,fd98,m646.62c.645;fd99,fd99,m646.62c.649;fd9a,fd9a,m646.645.64a;fd9b,fd9b,m646.645.649;fd9c,fd9d,m64a.645.645;fd9e,fd9e,m628.62e.64a;fd9f,fd9f,m62a.62c.64a;fda0,fda0,m62a.62c.649;fda1,fda1,m62a.62e.64a;fda2,fda2,m62a.62e.649;fda3,fda3,m62a.645.64a;fda4,fda4,m62a.645.649;fda5,fda5,m62c.645.64a;fda6,fda6,m62c.62d.649;fda7,fda7,m62c.645.649;fda8,fda8,m633.62e.649;fda9,fda9,m635.62d.64a;fdaa,fdaa,m634.62d.64a;fdab,fdab,m636.62d.64a;fdac,fdac,m644.62c.64a;fdad,fdad,m644.645.64a;fdae,fdae,m64a.62d.64a;fdaf,fdaf,m64a.62c.64a;fdb0,fdb0,m64a.645.64a;fdb1,fdb1,m645.645.64a;fdb2,fdb2,m642.645.64a;fdb3,fdb3,m646.62d.64a;fdb4,fdb4,m642.645.62d;fdb5,fdb5,m644.62d.645;fdb6,fdb6,m639.645.64a;fdb7,fdb7,m643.645.64a;fdb8,fdb8,m646.62c.62d;fdb9,fdb9,m645.62e.64a;fdba,fdba,m644.62c.",
    "645;fdbb,fdbb,m643.645.645;fdbc,fdbc,m644.62c.645;fdbd,fdbd,m646.62c.62d;fdbe,fdbe,m62c.62d.64a;fdbf,fdbf,m62d.62c.64a;fdc0,fdc0,m645.62c.64a;fdc1,fdc1,m641.645.64a;fdc2,fdc2,m628.62d.64a;fdc3,fdc3,m643.645.645;fdc4,fdc4,m639.62c.645;fdc5,fdc5,m635.645.645;fdc6,fdc6,m633.62e.64a;fdc7,fdc7,m646.62c.64a;fdd0,fdef,x;fdf0,fdf0,m635.644.6d2;fdf1,fdf1,m642.644.6d2;fdf2,fdf2,m627.644.644.647;fdf3,fdf3,m627.643.628.631;fdf4,fdf4,m645.62d.645.62f;fdf5,fdf5,m635.644.639.645;fdf6,fdf6,m631.633.648.644;fdf7,fdf7,m639.644.64a.647;fdf8,fdf8,m648.633.644.645;fdf9,fdf9,m635.644.649;fdfa,fdfa,m635.644.649.20.627.644.644.647.20.639.644.64a.647.20.648.633.644.645;fdfb,fdfb,m62c.644.20.62c.644.627.644.647;fdfc,fdfc,m631.6cc.627.644;fe00,fe0f,i;fe10,fe10,m2c;fe11,fe11,m3001;fe12,fe12,x;fe13,fe13,m3a;fe14,fe14,m3b;fe15,fe15,m21;fe16,fe16,m3f;fe17,fe17,m3016;fe18,fe18,m3017;fe19,fe1f,x;fe30,fe30,x;fe31,fe31,m2014;fe32,fe32,m2013;fe33,fe34,m5f;fe35,fe35,m28;fe36,fe36,m29;fe37,fe37,m7b;fe38,fe38,m7d;fe39,fe39,",
    "m3014;fe3a,fe3a,m3015;fe3b,fe3b,m3010;fe3c,fe3c,m3011;fe3d,fe3d,m300a;fe3e,fe3e,m300b;fe3f,fe3f,m3008;fe40,fe40,m3009;fe41,fe41,m300c;fe42,fe42,m300d;fe43,fe43,m300e;fe44,fe44,m300f;fe47,fe47,m5b;fe48,fe48,m5d;fe49,fe4c,m20.305;fe4d,fe4f,m5f;fe50,fe50,m2c;fe51,fe51,m3001;fe52,fe53,x;fe54,fe54,m3b;fe55,fe55,m3a;fe56,fe56,m3f;fe57,fe57,m21;fe58,fe58,m2014;fe59,fe59,m28;fe5a,fe5a,m29;fe5b,fe5b,m7b;fe5c,fe5c,m7d;fe5d,fe5d,m3014;fe5e,fe5e,m3015;fe5f,fe5f,m23;fe60,fe60,m26;fe61,fe61,m2a;fe62,fe62,m2b;fe63,fe63,m2d;fe64,fe64,m3c;fe65,fe65,m3e;fe66,fe66,m3d;fe67,fe67,x;fe68,fe68,m5c;fe69,fe69,m24;fe6a,fe6a,m25;fe6b,fe6b,m40;fe6c,fe6f,x;fe70,fe70,m20.64b;fe71,fe71,m640.64b;fe72,fe72,m20.64c;fe74,fe74,m20.64d;fe75,fe75,x;fe76,fe76,m20.64e;fe77,fe77,m640.64e;fe78,fe78,m20.64f;fe79,fe79,m640.64f;fe7a,fe7a,m20.650;fe7b,fe7b,m640.650;fe7c,fe7c,m20.651;fe7d,fe7d,m640.651;fe7e,fe7e,m20.652;fe7f,fe7f,m640.652;fe80,fe80,m621;fe81,fe82,m622;fe83,fe84,m623;fe85,fe86,m624;fe87,fe88,m625;fe89,fe8c,m626;fe8d",
    ",fe8e,m627;fe8f,fe92,m628;fe93,fe94,m629;fe95,fe98,m62a;fe99,fe9c,m62b;fe9d,fea0,m62c;fea1,fea4,m62d;fea5,fea8,m62e;fea9,feaa,m62f;feab,feac,m630;fead,feae,m631;feaf,feb0,m632;feb1,feb4,m633;feb5,feb8,m634;feb9,febc,m635;febd,fec0,m636;fec1,fec4,m637;fec5,fec8,m638;fec9,fecc,m639;fecd,fed0,m63a;fed1,fed4,m641;fed5,fed8,m642;fed9,fedc,m643;fedd,fee0,m644;fee1,fee4,m645;fee5,fee8,m646;fee9,feec,m647;feed,feee,m648;feef,fef0,m649;fef1,fef4,m64a;fef5,fef6,m644.622;fef7,fef8,m644.623;fef9,fefa,m644.625;fefb,fefc,m644.627;fefd,fefe,x;feff,feff,i;ff00,ff00,x;ff01,ff01,m21;ff02,ff02,m22;ff03,ff03,m23;ff04,ff04,m24;ff05,ff05,m25;ff06,ff06,m26;ff07,ff07,m27;ff08,ff08,m28;ff09,ff09,m29;ff0a,ff0a,m2a;ff0b,ff0b,m2b;ff0c,ff0c,m2c;ff0d,ff0d,m2d;ff0e,ff0e,m2e;ff0f,ff0f,m2f;ff10,ff10,m30;ff11,ff11,m31;ff12,ff12,m32;ff13,ff13,m33;ff14,ff14,m34;ff15,ff15,m35;ff16,ff16,m36;ff17,ff17,m37;ff18,ff18,m38;ff19,ff19,m39;ff1a,ff1a,m3a;ff1b,ff1b,m3b;ff1c,ff1c,m3c;ff1d,ff1d,m3d;ff1e,ff1e,m3e;ff1f,ff1f,m3f;ff20,ff2",
    "0,m40;ff21,ff21,m61;ff22,ff22,m62;ff23,ff23,m63;ff24,ff24,m64;ff25,ff25,m65;ff26,ff26,m66;ff27,ff27,m67;ff28,ff28,m68;ff29,ff29,m69;ff2a,ff2a,m6a;ff2b,ff2b,m6b;ff2c,ff2c,m6c;ff2d,ff2d,m6d;ff2e,ff2e,m6e;ff2f,ff2f,m6f;ff30,ff30,m70;ff31,ff31,m71;ff32,ff32,m72;ff33,ff33,m73;ff34,ff34,m74;ff35,ff35,m75;ff36,ff36,m76;ff37,ff37,m77;ff38,ff38,m78;ff39,ff39,m79;ff3a,ff3a,m7a;ff3b,ff3b,m5b;ff3c,ff3c,m5c;ff3d,ff3d,m5d;ff3e,ff3e,m5e;ff3f,ff3f,m5f;ff40,ff40,m60;ff41,ff41,m61;ff42,ff42,m62;ff43,ff43,m63;ff44,ff44,m64;ff45,ff45,m65;ff46,ff46,m66;ff47,ff47,m67;ff48,ff48,m68;ff49,ff49,m69;ff4a,ff4a,m6a;ff4b,ff4b,m6b;ff4c,ff4c,m6c;ff4d,ff4d,m6d;ff4e,ff4e,m6e;ff4f,ff4f,m6f;ff50,ff50,m70;ff51,ff51,m71;ff52,ff52,m72;ff53,ff53,m73;ff54,ff54,m74;ff55,ff55,m75;ff56,ff56,m76;ff57,ff57,m77;ff58,ff58,m78;ff59,ff59,m79;ff5a,ff5a,m7a;ff5b,ff5b,m7b;ff5c,ff5c,m7c;ff5d,ff5d,m7d;ff5e,ff5e,m7e;ff5f,ff5f,m2985;ff60,ff60,m2986;ff61,ff61,m2e;ff62,ff62,m300c;ff63,ff63,m300d;ff64,ff64,m3001;ff65,ff65,m30fb;ff66,ff66,m30f2;",
    "ff67,ff67,m30a1;ff68,ff68,m30a3;ff69,ff69,m30a5;ff6a,ff6a,m30a7;ff6b,ff6b,m30a9;ff6c,ff6c,m30e3;ff6d,ff6d,m30e5;ff6e,ff6e,m30e7;ff6f,ff6f,m30c3;ff70,ff70,m30fc;ff71,ff71,m30a2;ff72,ff72,m30a4;ff73,ff73,m30a6;ff74,ff74,m30a8;ff75,ff75,m30aa;ff76,ff76,m30ab;ff77,ff77,m30ad;ff78,ff78,m30af;ff79,ff79,m30b1;ff7a,ff7a,m30b3;ff7b,ff7b,m30b5;ff7c,ff7c,m30b7;ff7d,ff7d,m30b9;ff7e,ff7e,m30bb;ff7f,ff7f,m30bd;ff80,ff80,m30bf;ff81,ff81,m30c1;ff82,ff82,m30c4;ff83,ff83,m30c6;ff84,ff84,m30c8;ff85,ff85,m30ca;ff86,ff86,m30cb;ff87,ff87,m30cc;ff88,ff88,m30cd;ff89,ff89,m30ce;ff8a,ff8a,m30cf;ff8b,ff8b,m30d2;ff8c,ff8c,m30d5;ff8d,ff8d,m30d8;ff8e,ff8e,m30db;ff8f,ff8f,m30de;ff90,ff90,m30df;ff91,ff91,m30e0;ff92,ff92,m30e1;ff93,ff93,m30e2;ff94,ff94,m30e4;ff95,ff95,m30e6;ff96,ff96,m30e8;ff97,ff97,m30e9;ff98,ff98,m30ea;ff99,ff99,m30eb;ff9a,ff9a,m30ec;ff9b,ff9b,m30ed;ff9c,ff9c,m30ef;ff9d,ff9d,m30f3;ff9e,ff9e,m3099;ff9f,ff9f,m309a;ffa0,ffa0,i;ffa1,ffa1,m1100;ffa2,ffa2,m1101;ffa3,ffa3,m11aa;ffa4,ffa4,m1102;ffa5,ffa5,m1",
    "1ac;ffa6,ffa6,m11ad;ffa7,ffa7,m1103;ffa8,ffa8,m1104;ffa9,ffa9,m1105;ffaa,ffaa,m11b0;ffab,ffab,m11b1;ffac,ffac,m11b2;ffad,ffad,m11b3;ffae,ffae,m11b4;ffaf,ffaf,m11b5;ffb0,ffb0,m111a;ffb1,ffb1,m1106;ffb2,ffb2,m1107;ffb3,ffb3,m1108;ffb4,ffb4,m1121;ffb5,ffb5,m1109;ffb6,ffb6,m110a;ffb7,ffb7,m110b;ffb8,ffb8,m110c;ffb9,ffb9,m110d;ffba,ffba,m110e;ffbb,ffbb,m110f;ffbc,ffbc,m1110;ffbd,ffbd,m1111;ffbe,ffbe,m1112;ffbf,ffc1,x;ffc2,ffc2,m1161;ffc3,ffc3,m1162;ffc4,ffc4,m1163;ffc5,ffc5,m1164;ffc6,ffc6,m1165;ffc7,ffc7,m1166;ffc8,ffc9,x;ffca,ffca,m1167;ffcb,ffcb,m1168;ffcc,ffcc,m1169;ffcd,ffcd,m116a;ffce,ffce,m116b;ffcf,ffcf,m116c;ffd0,ffd1,x;ffd2,ffd2,m116d;ffd3,ffd3,m116e;ffd4,ffd4,m116f;ffd5,ffd5,m1170;ffd6,ffd6,m1171;ffd7,ffd7,m1172;ffd8,ffd9,x;ffda,ffda,m1173;ffdb,ffdb,m1174;ffdc,ffdc,m1175;ffdd,ffdf,x;ffe0,ffe0,ma2;ffe1,ffe1,ma3;ffe2,ffe2,mac;ffe3,ffe3,m20.304;ffe4,ffe4,ma6;ffe5,ffe5,ma5;ffe6,ffe6,m20a9;ffe7,ffe7,x;ffe8,ffe8,m2502;ffe9,ffe9,m2190;ffea,ffea,m2191;ffeb,ffeb,m2192;ffec,ffec,m2193;ffed",
    ",ffed,m25a0;ffee,ffee,m25cb;ffef,ffff,x;1000c,1000c,x;10027,10027,x;1003b,1003b,x;1003e,1003e,x;1004e,1004f,x;1005e,1007f,x;100fb,100ff,x;10103,10106,x;10134,10136,x;1018f,1018f,x;1019d,1019f,x;101a1,101cf,x;101fe,1027f,x;1029d,1029f,x;102d1,102df,x;102fc,102ff,x;10324,1032c,x;1034b,1034f,x;1037b,1037f,x;1039e,1039e,x;103c4,103c7,x;103d6,103ff,x;10400,10400,m10428;10401,10401,m10429;10402,10402,m1042a;10403,10403,m1042b;10404,10404,m1042c;10405,10405,m1042d;10406,10406,m1042e;10407,10407,m1042f;10408,10408,m10430;10409,10409,m10431;1040a,1040a,m10432;1040b,1040b,m10433;1040c,1040c,m10434;1040d,1040d,m10435;1040e,1040e,m10436;1040f,1040f,m10437;10410,10410,m10438;10411,10411,m10439;10412,10412,m1043a;10413,10413,m1043b;10414,10414,m1043c;10415,10415,m1043d;10416,10416,m1043e;10417,10417,m1043f;10418,10418,m10440;10419,10419,m10441;1041a,1041a,m10442;1041b,1041b,m10443;1041c,1041c,m10444;1041d,1041d,m10445;1041e,1041e,m10446;1041f,1041f,m10447;10420,10420,m10448;10421,10421,m10449;10422,",
    "10422,m1044a;10423,10423,m1044b;10424,10424,m1044c;10425,10425,m1044d;10426,10426,m1044e;10427,10427,m1044f;1049e,1049f,x;104aa,104af,x;104b0,104b0,m104d8;104b1,104b1,m104d9;104b2,104b2,m104da;104b3,104b3,m104db;104b4,104b4,m104dc;104b5,104b5,m104dd;104b6,104b6,m104de;104b7,104b7,m104df;104b8,104b8,m104e0;104b9,104b9,m104e1;104ba,104ba,m104e2;104bb,104bb,m104e3;104bc,104bc,m104e4;104bd,104bd,m104e5;104be,104be,m104e6;104bf,104bf,m104e7;104c0,104c0,m104e8;104c1,104c1,m104e9;104c2,104c2,m104ea;104c3,104c3,m104eb;104c4,104c4,m104ec;104c5,104c5,m104ed;104c6,104c6,m104ee;104c7,104c7,m104ef;104c8,104c8,m104f0;104c9,104c9,m104f1;104ca,104ca,m104f2;104cb,104cb,m104f3;104cc,104cc,m104f4;104cd,104cd,m104f5;104ce,104ce,m104f6;104cf,104cf,m104f7;104d0,104d0,m104f8;104d1,104d1,m104f9;104d2,104d2,m104fa;104d3,104d3,m104fb;104d4,104d7,x;104fc,104ff,x;10528,1052f,x;10564,1056e,x;10570,10570,m10597;10571,10571,m10598;10572,10572,m10599;10573,10573,m1059a;10574,10574,m1059b;10575,10575,m1059c;10576,1057",
    "6,m1059d;10577,10577,m1059e;10578,10578,m1059f;10579,10579,m105a0;1057a,1057a,m105a1;1057b,1057b,x;1057c,1057c,m105a3;1057d,1057d,m105a4;1057e,1057e,m105a5;1057f,1057f,m105a6;10580,10580,m105a7;10581,10581,m105a8;10582,10582,m105a9;10583,10583,m105aa;10584,10584,m105ab;10585,10585,m105ac;10586,10586,m105ad;10587,10587,m105ae;10588,10588,m105af;10589,10589,m105b0;1058a,1058a,m105b1;1058b,1058b,x;1058c,1058c,m105b3;1058d,1058d,m105b4;1058e,1058e,m105b5;1058f,1058f,m105b6;10590,10590,m105b7;10591,10591,m105b8;10592,10592,m105b9;10593,10593,x;10594,10594,m105bb;10595,10595,m105bc;10596,10596,x;105a2,105a2,x;105b2,105b2,x;105ba,105ba,x;105bd,105bf,x;105f4,105ff,x;10737,1073f,x;10756,1075f,x;10768,1077f,x;10781,10781,m2d0;10782,10782,m2d1;10783,10783,me6;10784,10784,m299;10785,10785,m253;10786,10786,x;10787,10787,m2a3;10788,10788,mab66;10789,10789,m2a5;1078a,1078a,m2a4;1078b,1078b,m256;1078c,1078c,m257;1078d,1078d,m1d91;1078e,1078e,m258;1078f,1078f,m25e;10790,10790,m2a9;10791,10791,m264;1079",
    "2,10792,m262;10793,10793,m260;10794,10794,m29b;10795,10795,m127;10796,10796,m29c;10797,10797,m267;10798,10798,m284;10799,10799,m2aa;1079a,1079a,m2ab;1079b,1079b,m26c;1079c,1079c,m1df04;1079d,1079d,ma78e;1079e,1079e,m26e;1079f,1079f,m1df05;107a0,107a0,m28e;107a1,107a1,m1df06;107a2,107a2,mf8;107a3,107a3,m276;107a4,107a4,m277;107a5,107a5,m71;107a6,107a6,m27a;107a7,107a7,m1df08;107a8,107a8,m27d;107a9,107a9,m27e;107aa,107aa,m280;107ab,107ab,m2a8;107ac,107ac,m2a6;107ad,107ad,mab67;107ae,107ae,m2a7;107af,107af,m288;107b0,107b0,m2c71;107b1,107b1,x;107b2,107b2,m28f;107b3,107b3,m2a1;107b4,107b4,m2a2;107b5,107b5,m298;107b6,107b6,m1c0;107b7,107b7,m1c1;107b8,107b8,m1c2;107b9,107b9,m1df0a;107ba,107ba,m1df1e;107bb,107ff,x;10806,10807,x;10809,10809,x;10836,10836,x;10839,1083b,x;1083d,1083e,x;10856,10856,x;1089f,108a6,x;108b0,108df,x;108f3,108f3,x;108f6,108fa,x;1091c,1091e,x;1093a,1093e,x;1095a,1097f,x;109b8,109bb,x;109d0,109d1,x;10a04,10a04,x;10a07,10a0b,x;10a14,10a14,x;10a18,10a18,x;10a36,10a37,x;10a",
    "3b,10a3e,x;10a49,10a4f,x;10a59,10a5f,x;10aa0,10abf,x;10ae7,10aea,x;10af7,10aff,x;10b36,10b38,x;10b56,10b57,x;10b73,10b77,x;10b92,10b98,x;10b9d,10ba8,x;10bb0,10bff,x;10c49,10c7f,x;10c80,10c80,m10cc0;10c81,10c81,m10cc1;10c82,10c82,m10cc2;10c83,10c83,m10cc3;10c84,10c84,m10cc4;10c85,10c85,m10cc5;10c86,10c86,m10cc6;10c87,10c87,m10cc7;10c88,10c88,m10cc8;10c89,10c89,m10cc9;10c8a,10c8a,m10cca;10c8b,10c8b,m10ccb;10c8c,10c8c,m10ccc;10c8d,10c8d,m10ccd;10c8e,10c8e,m10cce;10c8f,10c8f,m10ccf;10c90,10c90,m10cd0;10c91,10c91,m10cd1;10c92,10c92,m10cd2;10c93,10c93,m10cd3;10c94,10c94,m10cd4;10c95,10c95,m10cd5;10c96,10c96,m10cd6;10c97,10c97,m10cd7;10c98,10c98,m10cd8;10c99,10c99,m10cd9;10c9a,10c9a,m10cda;10c9b,10c9b,m10cdb;10c9c,10c9c,m10cdc;10c9d,10c9d,m10cdd;10c9e,10c9e,m10cde;10c9f,10c9f,m10cdf;10ca0,10ca0,m10ce0;10ca1,10ca1,m10ce1;10ca2,10ca2,m10ce2;10ca3,10ca3,m10ce3;10ca4,10ca4,m10ce4;10ca5,10ca5,m10ce5;10ca6,10ca6,m10ce6;10ca7,10ca7,m10ce7;10ca8,10ca8,m10ce8;10ca9,10ca9,m10ce9;10caa,10caa,m10cea;10ca",
    "b,10cab,m10ceb;10cac,10cac,m10cec;10cad,10cad,m10ced;10cae,10cae,m10cee;10caf,10caf,m10cef;10cb0,10cb0,m10cf0;10cb1,10cb1,m10cf1;10cb2,10cb2,m10cf2;10cb3,10cbf,x;10cf3,10cf9,x;10d28,10d2f,x;10d3a,10d3f,x;10d50,10d50,m10d70;10d51,10d51,m10d71;10d52,10d52,m10d72;10d53,10d53,m10d73;10d54,10d54,m10d74;10d55,10d55,m10d75;10d56,10d56,m10d76;10d57,10d57,m10d77;10d58,10d58,m10d78;10d59,10d59,m10d79;10d5a,10d5a,m10d7a;10d5b,10d5b,m10d7b;10d5c,10d5c,m10d7c;10d5d,10d5d,m10d7d;10d5e,10d5e,m10d7e;10d5f,10d5f,m10d7f;10d60,10d60,m10d80;10d61,10d61,m10d81;10d62,10d62,m10d82;10d63,10d63,m10d83;10d64,10d64,m10d84;10d65,10d65,m10d85;10d66,10d68,x;10d86,10d8d,x;10d90,10e5f,x;10e7f,10e7f,x;10eaa,10eaa,x;10eae,10eaf,x;10eb2,10ec1,x;10ec8,10ecf,x;10ed9,10ef9,x;10f28,10f2f,x;10f5a,10f6f,x;10f8a,10faf,x;10fcc,10fdf,x;10ff7,10fff,x;1104e,11051,x;11076,1107e,x;110bd,110bd,x;110c3,110cf,x;110e9,110ef,x;110fa,110ff,x;11135,11135,x;11148,1114f,x;11177,1117f,x;111e0,111e0,x;111f5,111ff,x;11212,11212,x;11242,1127f,x;",
    "11287,11287,x;11289,11289,x;1128e,1128e,x;1129e,1129e,x;112aa,112af,x;112eb,112ef,x;112fa,112ff,x;11304,11304,x;1130d,1130e,x;11311,11312,x;11329,11329,x;11331,11331,x;11334,11334,x;1133a,1133a,x;11345,11346,x;11349,1134a,x;1134e,1134f,x;11351,11356,x;11358,1135c,x;11364,11365,x;1136d,1136f,x;11375,1137f,x;1138a,1138a,x;1138c,1138d,x;1138f,1138f,x;113b6,113b6,x;113c1,113c1,x;113c3,113c4,x;113c6,113c6,x;113cb,113cb,x;113d6,113d6,x;113d9,113e0,x;113e3,113ff,x;1145c,1145c,x;11462,1147f,x;114c8,114cf,x;114da,1157f,x;115b6,115b7,x;115de,115ff,x;11645,1164f,x;1165a,1165f,x;1166d,1167f,x;116ba,116bf,x;116ca,116cf,x;116e4,116ff,x;1171b,1171c,x;1172c,1172f,x;11747,117ff,x;1183c,1189f,x;118a0,118a0,m118c0;118a1,118a1,m118c1;118a2,118a2,m118c2;118a3,118a3,m118c3;118a4,118a4,m118c4;118a5,118a5,m118c5;118a6,118a6,m118c6;118a7,118a7,m118c7;118a8,118a8,m118c8;118a9,118a9,m118c9;118aa,118aa,m118ca;118ab,118ab,m118cb;118ac,118ac,m118cc;118ad,118ad,m118cd;118ae,118ae,m118ce;118af,118af,m118cf;118b0,118b",
    "0,m118d0;118b1,118b1,m118d1;118b2,118b2,m118d2;118b3,118b3,m118d3;118b4,118b4,m118d4;118b5,118b5,m118d5;118b6,118b6,m118d6;118b7,118b7,m118d7;118b8,118b8,m118d8;118b9,118b9,m118d9;118ba,118ba,m118da;118bb,118bb,m118db;118bc,118bc,m118dc;118bd,118bd,m118dd;118be,118be,m118de;118bf,118bf,m118df;118f3,118fe,x;11907,11908,x;1190a,1190b,x;11914,11914,x;11917,11917,x;11936,11936,x;11939,1193a,x;11947,1194f,x;1195a,1199f,x;119a8,119a9,x;119d8,119d9,x;119e5,119ff,x;11a48,11a4f,x;11aa3,11aaf,x;11af9,11aff,x;11b0a,11b5f,x;11b68,11bbf,x;11be2,11bef,x;11bfa,11bff,x;11c09,11c09,x;11c37,11c37,x;11c46,11c4f,x;11c6d,11c6f,x;11c90,11c91,x;11ca8,11ca8,x;11cb7,11cff,x;11d07,11d07,x;11d0a,11d0a,x;11d37,11d39,x;11d3b,11d3b,x;11d3e,11d3e,x;11d48,11d4f,x;11d5a,11d5f,x;11d66,11d66,x;11d69,11d69,x;11d8f,11d8f,x;11d92,11d92,x;11d99,11d9f,x;11daa,11daf,x;11ddc,11ddf,x;11dea,11edf,x;11ef9,11eff,x;11f11,11f11,x;11f3b,11f3d,x;11f5b,11faf,x;11fb1,11fbf,x;11ff2,11ffe,x;1239a,123ff,x;1246f,1246f,x;12475,1247f,x;12544,",
    "12f8f,x;12ff3,12fff,x;13430,1343f,x;13456,1345f,x;143fb,143ff,x;14647,160ff,x;1613a,167ff,x;16a39,16a3f,x;16a5f,16a5f,x;16a6a,16a6d,x;16abf,16abf,x;16aca,16acf,x;16aee,16aef,x;16af6,16aff,x;16b46,16b4f,x;16b5a,16b5a,x;16b62,16b62,x;16b78,16b7c,x;16b90,16d3f,x;16d7a,16e3f,x;16e40,16e40,m16e60;16e41,16e41,m16e61;16e42,16e42,m16e62;16e43,16e43,m16e63;16e44,16e44,m16e64;16e45,16e45,m16e65;16e46,16e46,m16e66;16e47,16e47,m16e67;16e48,16e48,m16e68;16e49,16e49,m16e69;16e4a,16e4a,m16e6a;16e4b,16e4b,m16e6b;16e4c,16e4c,m16e6c;16e4d,16e4d,m16e6d;16e4e,16e4e,m16e6e;16e4f,16e4f,m16e6f;16e50,16e50,m16e70;16e51,16e51,m16e71;16e52,16e52,m16e72;16e53,16e53,m16e73;16e54,16e54,m16e74;16e55,16e55,m16e75;16e56,16e56,m16e76;16e57,16e57,m16e77;16e58,16e58,m16e78;16e59,16e59,m16e79;16e5a,16e5a,m16e7a;16e5b,16e5b,m16e7b;16e5c,16e5c,m16e7c;16e5d,16e5d,m16e7d;16e5e,16e5e,m16e7e;16e5f,16e5f,m16e7f;16e9b,16e9f,x;16ea0,16ea0,m16ebb;16ea1,16ea1,m16ebc;16ea2,16ea2,m16ebd;16ea3,16ea3,m16ebe;16ea4,16ea4,m16ebf;16ea5,16e",
    "a5,m16ec0;16ea6,16ea6,m16ec1;16ea7,16ea7,m16ec2;16ea8,16ea8,m16ec3;16ea9,16ea9,m16ec4;16eaa,16eaa,m16ec5;16eab,16eab,m16ec6;16eac,16eac,m16ec7;16ead,16ead,m16ec8;16eae,16eae,m16ec9;16eaf,16eaf,m16eca;16eb0,16eb0,m16ecb;16eb1,16eb1,m16ecc;16eb2,16eb2,m16ecd;16eb3,16eb3,m16ece;16eb4,16eb4,m16ecf;16eb5,16eb5,m16ed0;16eb6,16eb6,m16ed1;16eb7,16eb7,m16ed2;16eb8,16eb8,m16ed3;16eb9,16eba,x;16ed4,16eff,x;16f4b,16f4e,x;16f88,16f8e,x;16fa0,16fdf,x;16fe5,16fef,x;16ff7,16fff,x;18cd6,18cfe,x;18d1f,18d7f,x;18df3,1afef,x;1aff4,1aff4,x;1affc,1affc,x;1afff,1afff,x;1b123,1b131,x;1b133,1b14f,x;1b153,1b154,x;1b156,1b163,x;1b168,1b16f,x;1b2fc,1bbff,x;1bc6b,1bc6f,x;1bc7d,1bc7f,x;1bc89,1bc8f,x;1bc9a,1bc9b,x;1bca0,1bca3,i;1bca4,1cbff,x;1ccd6,1ccd6,m61;1ccd7,1ccd7,m62;1ccd8,1ccd8,m63;1ccd9,1ccd9,m64;1ccda,1ccda,m65;1ccdb,1ccdb,m66;1ccdc,1ccdc,m67;1ccdd,1ccdd,m68;1ccde,1ccde,m69;1ccdf,1ccdf,m6a;1cce0,1cce0,m6b;1cce1,1cce1,m6c;1cce2,1cce2,m6d;1cce3,1cce3,m6e;1cce4,1cce4,m6f;1cce5,1cce5,m70;1cce6,1cce6,m71;1cce7,1",
    "cce7,m72;1cce8,1cce8,m73;1cce9,1cce9,m74;1ccea,1ccea,m75;1cceb,1cceb,m76;1ccec,1ccec,m77;1cced,1cced,m78;1ccee,1ccee,m79;1ccef,1ccef,m7a;1ccf0,1ccf0,m30;1ccf1,1ccf1,m31;1ccf2,1ccf2,m32;1ccf3,1ccf3,m33;1ccf4,1ccf4,m34;1ccf5,1ccf5,m35;1ccf6,1ccf6,m36;1ccf7,1ccf7,m37;1ccf8,1ccf8,m38;1ccf9,1ccf9,m39;1ccfd,1ccff,x;1ceb4,1ceb9,x;1ced1,1cedf,x;1cef1,1ceff,x;1cf2e,1cf2f,x;1cf47,1cf4f,x;1cfc4,1cfff,x;1d0f6,1d0ff,x;1d127,1d128,x;1d15e,1d15e,m1d157.1d165;1d15f,1d15f,m1d158.1d165;1d160,1d160,m1d158.1d165.1d16e;1d161,1d161,m1d158.1d165.1d16f;1d162,1d162,m1d158.1d165.1d170;1d163,1d163,m1d158.1d165.1d171;1d164,1d164,m1d158.1d165.1d172;1d173,1d17a,i;1d1bb,1d1bb,m1d1b9.1d165;1d1bc,1d1bc,m1d1ba.1d165;1d1bd,1d1bd,m1d1b9.1d165.1d16e;1d1be,1d1be,m1d1ba.1d165.1d16e;1d1bf,1d1bf,m1d1b9.1d165.1d16f;1d1c0,1d1c0,m1d1ba.1d165.1d16f;1d1eb,1d1ff,x;1d246,1d2bf,x;1d2d4,1d2df,x;1d2f4,1d2ff,x;1d357,1d35f,x;1d379,1d3ff,x;1d400,1d400,m61;1d401,1d401,m62;1d402,1d402,m63;1d403,1d403,m64;1d404,1d404,m65;1d405,1d405,m66;1d40",
    "6,1d406,m67;1d407,1d407,m68;1d408,1d408,m69;1d409,1d409,m6a;1d40a,1d40a,m6b;1d40b,1d40b,m6c;1d40c,1d40c,m6d;1d40d,1d40d,m6e;1d40e,1d40e,m6f;1d40f,1d40f,m70;1d410,1d410,m71;1d411,1d411,m72;1d412,1d412,m73;1d413,1d413,m74;1d414,1d414,m75;1d415,1d415,m76;1d416,1d416,m77;1d417,1d417,m78;1d418,1d418,m79;1d419,1d419,m7a;1d41a,1d41a,m61;1d41b,1d41b,m62;1d41c,1d41c,m63;1d41d,1d41d,m64;1d41e,1d41e,m65;1d41f,1d41f,m66;1d420,1d420,m67;1d421,1d421,m68;1d422,1d422,m69;1d423,1d423,m6a;1d424,1d424,m6b;1d425,1d425,m6c;1d426,1d426,m6d;1d427,1d427,m6e;1d428,1d428,m6f;1d429,1d429,m70;1d42a,1d42a,m71;1d42b,1d42b,m72;1d42c,1d42c,m73;1d42d,1d42d,m74;1d42e,1d42e,m75;1d42f,1d42f,m76;1d430,1d430,m77;1d431,1d431,m78;1d432,1d432,m79;1d433,1d433,m7a;1d434,1d434,m61;1d435,1d435,m62;1d436,1d436,m63;1d437,1d437,m64;1d438,1d438,m65;1d439,1d439,m66;1d43a,1d43a,m67;1d43b,1d43b,m68;1d43c,1d43c,m69;1d43d,1d43d,m6a;1d43e,1d43e,m6b;1d43f,1d43f,m6c;1d440,1d440,m6d;1d441,1d441,m6e;1d442,1d442,m6f;1d443,1d443,m70;1d444,1d444,",
    "m71;1d445,1d445,m72;1d446,1d446,m73;1d447,1d447,m74;1d448,1d448,m75;1d449,1d449,m76;1d44a,1d44a,m77;1d44b,1d44b,m78;1d44c,1d44c,m79;1d44d,1d44d,m7a;1d44e,1d44e,m61;1d44f,1d44f,m62;1d450,1d450,m63;1d451,1d451,m64;1d452,1d452,m65;1d453,1d453,m66;1d454,1d454,m67;1d455,1d455,x;1d456,1d456,m69;1d457,1d457,m6a;1d458,1d458,m6b;1d459,1d459,m6c;1d45a,1d45a,m6d;1d45b,1d45b,m6e;1d45c,1d45c,m6f;1d45d,1d45d,m70;1d45e,1d45e,m71;1d45f,1d45f,m72;1d460,1d460,m73;1d461,1d461,m74;1d462,1d462,m75;1d463,1d463,m76;1d464,1d464,m77;1d465,1d465,m78;1d466,1d466,m79;1d467,1d467,m7a;1d468,1d468,m61;1d469,1d469,m62;1d46a,1d46a,m63;1d46b,1d46b,m64;1d46c,1d46c,m65;1d46d,1d46d,m66;1d46e,1d46e,m67;1d46f,1d46f,m68;1d470,1d470,m69;1d471,1d471,m6a;1d472,1d472,m6b;1d473,1d473,m6c;1d474,1d474,m6d;1d475,1d475,m6e;1d476,1d476,m6f;1d477,1d477,m70;1d478,1d478,m71;1d479,1d479,m72;1d47a,1d47a,m73;1d47b,1d47b,m74;1d47c,1d47c,m75;1d47d,1d47d,m76;1d47e,1d47e,m77;1d47f,1d47f,m78;1d480,1d480,m79;1d481,1d481,m7a;1d482,1d482,m61;1d483,",
    "1d483,m62;1d484,1d484,m63;1d485,1d485,m64;1d486,1d486,m65;1d487,1d487,m66;1d488,1d488,m67;1d489,1d489,m68;1d48a,1d48a,m69;1d48b,1d48b,m6a;1d48c,1d48c,m6b;1d48d,1d48d,m6c;1d48e,1d48e,m6d;1d48f,1d48f,m6e;1d490,1d490,m6f;1d491,1d491,m70;1d492,1d492,m71;1d493,1d493,m72;1d494,1d494,m73;1d495,1d495,m74;1d496,1d496,m75;1d497,1d497,m76;1d498,1d498,m77;1d499,1d499,m78;1d49a,1d49a,m79;1d49b,1d49b,m7a;1d49c,1d49c,m61;1d49d,1d49d,x;1d49e,1d49e,m63;1d49f,1d49f,m64;1d4a0,1d4a1,x;1d4a2,1d4a2,m67;1d4a3,1d4a4,x;1d4a5,1d4a5,m6a;1d4a6,1d4a6,m6b;1d4a7,1d4a8,x;1d4a9,1d4a9,m6e;1d4aa,1d4aa,m6f;1d4ab,1d4ab,m70;1d4ac,1d4ac,m71;1d4ad,1d4ad,x;1d4ae,1d4ae,m73;1d4af,1d4af,m74;1d4b0,1d4b0,m75;1d4b1,1d4b1,m76;1d4b2,1d4b2,m77;1d4b3,1d4b3,m78;1d4b4,1d4b4,m79;1d4b5,1d4b5,m7a;1d4b6,1d4b6,m61;1d4b7,1d4b7,m62;1d4b8,1d4b8,m63;1d4b9,1d4b9,m64;1d4ba,1d4ba,x;1d4bb,1d4bb,m66;1d4bc,1d4bc,x;1d4bd,1d4bd,m68;1d4be,1d4be,m69;1d4bf,1d4bf,m6a;1d4c0,1d4c0,m6b;1d4c1,1d4c1,m6c;1d4c2,1d4c2,m6d;1d4c3,1d4c3,m6e;1d4c4,1d4c4,x;1d4c5,1d4c5,m7",
    "0;1d4c6,1d4c6,m71;1d4c7,1d4c7,m72;1d4c8,1d4c8,m73;1d4c9,1d4c9,m74;1d4ca,1d4ca,m75;1d4cb,1d4cb,m76;1d4cc,1d4cc,m77;1d4cd,1d4cd,m78;1d4ce,1d4ce,m79;1d4cf,1d4cf,m7a;1d4d0,1d4d0,m61;1d4d1,1d4d1,m62;1d4d2,1d4d2,m63;1d4d3,1d4d3,m64;1d4d4,1d4d4,m65;1d4d5,1d4d5,m66;1d4d6,1d4d6,m67;1d4d7,1d4d7,m68;1d4d8,1d4d8,m69;1d4d9,1d4d9,m6a;1d4da,1d4da,m6b;1d4db,1d4db,m6c;1d4dc,1d4dc,m6d;1d4dd,1d4dd,m6e;1d4de,1d4de,m6f;1d4df,1d4df,m70;1d4e0,1d4e0,m71;1d4e1,1d4e1,m72;1d4e2,1d4e2,m73;1d4e3,1d4e3,m74;1d4e4,1d4e4,m75;1d4e5,1d4e5,m76;1d4e6,1d4e6,m77;1d4e7,1d4e7,m78;1d4e8,1d4e8,m79;1d4e9,1d4e9,m7a;1d4ea,1d4ea,m61;1d4eb,1d4eb,m62;1d4ec,1d4ec,m63;1d4ed,1d4ed,m64;1d4ee,1d4ee,m65;1d4ef,1d4ef,m66;1d4f0,1d4f0,m67;1d4f1,1d4f1,m68;1d4f2,1d4f2,m69;1d4f3,1d4f3,m6a;1d4f4,1d4f4,m6b;1d4f5,1d4f5,m6c;1d4f6,1d4f6,m6d;1d4f7,1d4f7,m6e;1d4f8,1d4f8,m6f;1d4f9,1d4f9,m70;1d4fa,1d4fa,m71;1d4fb,1d4fb,m72;1d4fc,1d4fc,m73;1d4fd,1d4fd,m74;1d4fe,1d4fe,m75;1d4ff,1d4ff,m76;1d500,1d500,m77;1d501,1d501,m78;1d502,1d502,m79;1d503,1d503,m7a;1d504,",
    "1d504,m61;1d505,1d505,m62;1d506,1d506,x;1d507,1d507,m64;1d508,1d508,m65;1d509,1d509,m66;1d50a,1d50a,m67;1d50b,1d50c,x;1d50d,1d50d,m6a;1d50e,1d50e,m6b;1d50f,1d50f,m6c;1d510,1d510,m6d;1d511,1d511,m6e;1d512,1d512,m6f;1d513,1d513,m70;1d514,1d514,m71;1d515,1d515,x;1d516,1d516,m73;1d517,1d517,m74;1d518,1d518,m75;1d519,1d519,m76;1d51a,1d51a,m77;1d51b,1d51b,m78;1d51c,1d51c,m79;1d51d,1d51d,x;1d51e,1d51e,m61;1d51f,1d51f,m62;1d520,1d520,m63;1d521,1d521,m64;1d522,1d522,m65;1d523,1d523,m66;1d524,1d524,m67;1d525,1d525,m68;1d526,1d526,m69;1d527,1d527,m6a;1d528,1d528,m6b;1d529,1d529,m6c;1d52a,1d52a,m6d;1d52b,1d52b,m6e;1d52c,1d52c,m6f;1d52d,1d52d,m70;1d52e,1d52e,m71;1d52f,1d52f,m72;1d530,1d530,m73;1d531,1d531,m74;1d532,1d532,m75;1d533,1d533,m76;1d534,1d534,m77;1d535,1d535,m78;1d536,1d536,m79;1d537,1d537,m7a;1d538,1d538,m61;1d539,1d539,m62;1d53a,1d53a,x;1d53b,1d53b,m64;1d53c,1d53c,m65;1d53d,1d53d,m66;1d53e,1d53e,m67;1d53f,1d53f,x;1d540,1d540,m69;1d541,1d541,m6a;1d542,1d542,m6b;1d543,1d543,m6c;1d544,1d54",
    "4,m6d;1d545,1d545,x;1d546,1d546,m6f;1d547,1d549,x;1d54a,1d54a,m73;1d54b,1d54b,m74;1d54c,1d54c,m75;1d54d,1d54d,m76;1d54e,1d54e,m77;1d54f,1d54f,m78;1d550,1d550,m79;1d551,1d551,x;1d552,1d552,m61;1d553,1d553,m62;1d554,1d554,m63;1d555,1d555,m64;1d556,1d556,m65;1d557,1d557,m66;1d558,1d558,m67;1d559,1d559,m68;1d55a,1d55a,m69;1d55b,1d55b,m6a;1d55c,1d55c,m6b;1d55d,1d55d,m6c;1d55e,1d55e,m6d;1d55f,1d55f,m6e;1d560,1d560,m6f;1d561,1d561,m70;1d562,1d562,m71;1d563,1d563,m72;1d564,1d564,m73;1d565,1d565,m74;1d566,1d566,m75;1d567,1d567,m76;1d568,1d568,m77;1d569,1d569,m78;1d56a,1d56a,m79;1d56b,1d56b,m7a;1d56c,1d56c,m61;1d56d,1d56d,m62;1d56e,1d56e,m63;1d56f,1d56f,m64;1d570,1d570,m65;1d571,1d571,m66;1d572,1d572,m67;1d573,1d573,m68;1d574,1d574,m69;1d575,1d575,m6a;1d576,1d576,m6b;1d577,1d577,m6c;1d578,1d578,m6d;1d579,1d579,m6e;1d57a,1d57a,m6f;1d57b,1d57b,m70;1d57c,1d57c,m71;1d57d,1d57d,m72;1d57e,1d57e,m73;1d57f,1d57f,m74;1d580,1d580,m75;1d581,1d581,m76;1d582,1d582,m77;1d583,1d583,m78;1d584,1d584,m79;1d585,1d",
    "585,m7a;1d586,1d586,m61;1d587,1d587,m62;1d588,1d588,m63;1d589,1d589,m64;1d58a,1d58a,m65;1d58b,1d58b,m66;1d58c,1d58c,m67;1d58d,1d58d,m68;1d58e,1d58e,m69;1d58f,1d58f,m6a;1d590,1d590,m6b;1d591,1d591,m6c;1d592,1d592,m6d;1d593,1d593,m6e;1d594,1d594,m6f;1d595,1d595,m70;1d596,1d596,m71;1d597,1d597,m72;1d598,1d598,m73;1d599,1d599,m74;1d59a,1d59a,m75;1d59b,1d59b,m76;1d59c,1d59c,m77;1d59d,1d59d,m78;1d59e,1d59e,m79;1d59f,1d59f,m7a;1d5a0,1d5a0,m61;1d5a1,1d5a1,m62;1d5a2,1d5a2,m63;1d5a3,1d5a3,m64;1d5a4,1d5a4,m65;1d5a5,1d5a5,m66;1d5a6,1d5a6,m67;1d5a7,1d5a7,m68;1d5a8,1d5a8,m69;1d5a9,1d5a9,m6a;1d5aa,1d5aa,m6b;1d5ab,1d5ab,m6c;1d5ac,1d5ac,m6d;1d5ad,1d5ad,m6e;1d5ae,1d5ae,m6f;1d5af,1d5af,m70;1d5b0,1d5b0,m71;1d5b1,1d5b1,m72;1d5b2,1d5b2,m73;1d5b3,1d5b3,m74;1d5b4,1d5b4,m75;1d5b5,1d5b5,m76;1d5b6,1d5b6,m77;1d5b7,1d5b7,m78;1d5b8,1d5b8,m79;1d5b9,1d5b9,m7a;1d5ba,1d5ba,m61;1d5bb,1d5bb,m62;1d5bc,1d5bc,m63;1d5bd,1d5bd,m64;1d5be,1d5be,m65;1d5bf,1d5bf,m66;1d5c0,1d5c0,m67;1d5c1,1d5c1,m68;1d5c2,1d5c2,m69;1d5c3,1d5c3,m6a;",
    "1d5c4,1d5c4,m6b;1d5c5,1d5c5,m6c;1d5c6,1d5c6,m6d;1d5c7,1d5c7,m6e;1d5c8,1d5c8,m6f;1d5c9,1d5c9,m70;1d5ca,1d5ca,m71;1d5cb,1d5cb,m72;1d5cc,1d5cc,m73;1d5cd,1d5cd,m74;1d5ce,1d5ce,m75;1d5cf,1d5cf,m76;1d5d0,1d5d0,m77;1d5d1,1d5d1,m78;1d5d2,1d5d2,m79;1d5d3,1d5d3,m7a;1d5d4,1d5d4,m61;1d5d5,1d5d5,m62;1d5d6,1d5d6,m63;1d5d7,1d5d7,m64;1d5d8,1d5d8,m65;1d5d9,1d5d9,m66;1d5da,1d5da,m67;1d5db,1d5db,m68;1d5dc,1d5dc,m69;1d5dd,1d5dd,m6a;1d5de,1d5de,m6b;1d5df,1d5df,m6c;1d5e0,1d5e0,m6d;1d5e1,1d5e1,m6e;1d5e2,1d5e2,m6f;1d5e3,1d5e3,m70;1d5e4,1d5e4,m71;1d5e5,1d5e5,m72;1d5e6,1d5e6,m73;1d5e7,1d5e7,m74;1d5e8,1d5e8,m75;1d5e9,1d5e9,m76;1d5ea,1d5ea,m77;1d5eb,1d5eb,m78;1d5ec,1d5ec,m79;1d5ed,1d5ed,m7a;1d5ee,1d5ee,m61;1d5ef,1d5ef,m62;1d5f0,1d5f0,m63;1d5f1,1d5f1,m64;1d5f2,1d5f2,m65;1d5f3,1d5f3,m66;1d5f4,1d5f4,m67;1d5f5,1d5f5,m68;1d5f6,1d5f6,m69;1d5f7,1d5f7,m6a;1d5f8,1d5f8,m6b;1d5f9,1d5f9,m6c;1d5fa,1d5fa,m6d;1d5fb,1d5fb,m6e;1d5fc,1d5fc,m6f;1d5fd,1d5fd,m70;1d5fe,1d5fe,m71;1d5ff,1d5ff,m72;1d600,1d600,m73;1d601,1d601,m74;1d602,1d",
    "602,m75;1d603,1d603,m76;1d604,1d604,m77;1d605,1d605,m78;1d606,1d606,m79;1d607,1d607,m7a;1d608,1d608,m61;1d609,1d609,m62;1d60a,1d60a,m63;1d60b,1d60b,m64;1d60c,1d60c,m65;1d60d,1d60d,m66;1d60e,1d60e,m67;1d60f,1d60f,m68;1d610,1d610,m69;1d611,1d611,m6a;1d612,1d612,m6b;1d613,1d613,m6c;1d614,1d614,m6d;1d615,1d615,m6e;1d616,1d616,m6f;1d617,1d617,m70;1d618,1d618,m71;1d619,1d619,m72;1d61a,1d61a,m73;1d61b,1d61b,m74;1d61c,1d61c,m75;1d61d,1d61d,m76;1d61e,1d61e,m77;1d61f,1d61f,m78;1d620,1d620,m79;1d621,1d621,m7a;1d622,1d622,m61;1d623,1d623,m62;1d624,1d624,m63;1d625,1d625,m64;1d626,1d626,m65;1d627,1d627,m66;1d628,1d628,m67;1d629,1d629,m68;1d62a,1d62a,m69;1d62b,1d62b,m6a;1d62c,1d62c,m6b;1d62d,1d62d,m6c;1d62e,1d62e,m6d;1d62f,1d62f,m6e;1d630,1d630,m6f;1d631,1d631,m70;1d632,1d632,m71;1d633,1d633,m72;1d634,1d634,m73;1d635,1d635,m74;1d636,1d636,m75;1d637,1d637,m76;1d638,1d638,m77;1d639,1d639,m78;1d63a,1d63a,m79;1d63b,1d63b,m7a;1d63c,1d63c,m61;1d63d,1d63d,m62;1d63e,1d63e,m63;1d63f,1d63f,m64;1d640,1d640,m65;",
    "1d641,1d641,m66;1d642,1d642,m67;1d643,1d643,m68;1d644,1d644,m69;1d645,1d645,m6a;1d646,1d646,m6b;1d647,1d647,m6c;1d648,1d648,m6d;1d649,1d649,m6e;1d64a,1d64a,m6f;1d64b,1d64b,m70;1d64c,1d64c,m71;1d64d,1d64d,m72;1d64e,1d64e,m73;1d64f,1d64f,m74;1d650,1d650,m75;1d651,1d651,m76;1d652,1d652,m77;1d653,1d653,m78;1d654,1d654,m79;1d655,1d655,m7a;1d656,1d656,m61;1d657,1d657,m62;1d658,1d658,m63;1d659,1d659,m64;1d65a,1d65a,m65;1d65b,1d65b,m66;1d65c,1d65c,m67;1d65d,1d65d,m68;1d65e,1d65e,m69;1d65f,1d65f,m6a;1d660,1d660,m6b;1d661,1d661,m6c;1d662,1d662,m6d;1d663,1d663,m6e;1d664,1d664,m6f;1d665,1d665,m70;1d666,1d666,m71;1d667,1d667,m72;1d668,1d668,m73;1d669,1d669,m74;1d66a,1d66a,m75;1d66b,1d66b,m76;1d66c,1d66c,m77;1d66d,1d66d,m78;1d66e,1d66e,m79;1d66f,1d66f,m7a;1d670,1d670,m61;1d671,1d671,m62;1d672,1d672,m63;1d673,1d673,m64;1d674,1d674,m65;1d675,1d675,m66;1d676,1d676,m67;1d677,1d677,m68;1d678,1d678,m69;1d679,1d679,m6a;1d67a,1d67a,m6b;1d67b,1d67b,m6c;1d67c,1d67c,m6d;1d67d,1d67d,m6e;1d67e,1d67e,m6f;1d67f,1d",
    "67f,m70;1d680,1d680,m71;1d681,1d681,m72;1d682,1d682,m73;1d683,1d683,m74;1d684,1d684,m75;1d685,1d685,m76;1d686,1d686,m77;1d687,1d687,m78;1d688,1d688,m79;1d689,1d689,m7a;1d68a,1d68a,m61;1d68b,1d68b,m62;1d68c,1d68c,m63;1d68d,1d68d,m64;1d68e,1d68e,m65;1d68f,1d68f,m66;1d690,1d690,m67;1d691,1d691,m68;1d692,1d692,m69;1d693,1d693,m6a;1d694,1d694,m6b;1d695,1d695,m6c;1d696,1d696,m6d;1d697,1d697,m6e;1d698,1d698,m6f;1d699,1d699,m70;1d69a,1d69a,m71;1d69b,1d69b,m72;1d69c,1d69c,m73;1d69d,1d69d,m74;1d69e,1d69e,m75;1d69f,1d69f,m76;1d6a0,1d6a0,m77;1d6a1,1d6a1,m78;1d6a2,1d6a2,m79;1d6a3,1d6a3,m7a;1d6a4,1d6a4,m131;1d6a5,1d6a5,m237;1d6a6,1d6a7,x;1d6a8,1d6a8,m3b1;1d6a9,1d6a9,m3b2;1d6aa,1d6aa,m3b3;1d6ab,1d6ab,m3b4;1d6ac,1d6ac,m3b5;1d6ad,1d6ad,m3b6;1d6ae,1d6ae,m3b7;1d6af,1d6af,m3b8;1d6b0,1d6b0,m3b9;1d6b1,1d6b1,m3ba;1d6b2,1d6b2,m3bb;1d6b3,1d6b3,m3bc;1d6b4,1d6b4,m3bd;1d6b5,1d6b5,m3be;1d6b6,1d6b6,m3bf;1d6b7,1d6b7,m3c0;1d6b8,1d6b8,m3c1;1d6b9,1d6b9,m3b8;1d6ba,1d6ba,m3c3;1d6bb,1d6bb,m3c4;1d6bc,1d6bc,m3c5;1d6bd,1d6bd",
    ",m3c6;1d6be,1d6be,m3c7;1d6bf,1d6bf,m3c8;1d6c0,1d6c0,m3c9;1d6c1,1d6c1,m2207;1d6c2,1d6c2,m3b1;1d6c3,1d6c3,m3b2;1d6c4,1d6c4,m3b3;1d6c5,1d6c5,m3b4;1d6c6,1d6c6,m3b5;1d6c7,1d6c7,m3b6;1d6c8,1d6c8,m3b7;1d6c9,1d6c9,m3b8;1d6ca,1d6ca,m3b9;1d6cb,1d6cb,m3ba;1d6cc,1d6cc,m3bb;1d6cd,1d6cd,m3bc;1d6ce,1d6ce,m3bd;1d6cf,1d6cf,m3be;1d6d0,1d6d0,m3bf;1d6d1,1d6d1,m3c0;1d6d2,1d6d2,m3c1;1d6d3,1d6d4,m3c3;1d6d5,1d6d5,m3c4;1d6d6,1d6d6,m3c5;1d6d7,1d6d7,m3c6;1d6d8,1d6d8,m3c7;1d6d9,1d6d9,m3c8;1d6da,1d6da,m3c9;1d6db,1d6db,m2202;1d6dc,1d6dc,m3b5;1d6dd,1d6dd,m3b8;1d6de,1d6de,m3ba;1d6df,1d6df,m3c6;1d6e0,1d6e0,m3c1;1d6e1,1d6e1,m3c0;1d6e2,1d6e2,m3b1;1d6e3,1d6e3,m3b2;1d6e4,1d6e4,m3b3;1d6e5,1d6e5,m3b4;1d6e6,1d6e6,m3b5;1d6e7,1d6e7,m3b6;1d6e8,1d6e8,m3b7;1d6e9,1d6e9,m3b8;1d6ea,1d6ea,m3b9;1d6eb,1d6eb,m3ba;1d6ec,1d6ec,m3bb;1d6ed,1d6ed,m3bc;1d6ee,1d6ee,m3bd;1d6ef,1d6ef,m3be;1d6f0,1d6f0,m3bf;1d6f1,1d6f1,m3c0;1d6f2,1d6f2,m3c1;1d6f3,1d6f3,m3b8;1d6f4,1d6f4,m3c3;1d6f5,1d6f5,m3c4;1d6f6,1d6f6,m3c5;1d6f7,1d6f7,m3c6;1d6f8,1d6f8,m3c7;1d6f9,",
    "1d6f9,m3c8;1d6fa,1d6fa,m3c9;1d6fb,1d6fb,m2207;1d6fc,1d6fc,m3b1;1d6fd,1d6fd,m3b2;1d6fe,1d6fe,m3b3;1d6ff,1d6ff,m3b4;1d700,1d700,m3b5;1d701,1d701,m3b6;1d702,1d702,m3b7;1d703,1d703,m3b8;1d704,1d704,m3b9;1d705,1d705,m3ba;1d706,1d706,m3bb;1d707,1d707,m3bc;1d708,1d708,m3bd;1d709,1d709,m3be;1d70a,1d70a,m3bf;1d70b,1d70b,m3c0;1d70c,1d70c,m3c1;1d70d,1d70e,m3c3;1d70f,1d70f,m3c4;1d710,1d710,m3c5;1d711,1d711,m3c6;1d712,1d712,m3c7;1d713,1d713,m3c8;1d714,1d714,m3c9;1d715,1d715,m2202;1d716,1d716,m3b5;1d717,1d717,m3b8;1d718,1d718,m3ba;1d719,1d719,m3c6;1d71a,1d71a,m3c1;1d71b,1d71b,m3c0;1d71c,1d71c,m3b1;1d71d,1d71d,m3b2;1d71e,1d71e,m3b3;1d71f,1d71f,m3b4;1d720,1d720,m3b5;1d721,1d721,m3b6;1d722,1d722,m3b7;1d723,1d723,m3b8;1d724,1d724,m3b9;1d725,1d725,m3ba;1d726,1d726,m3bb;1d727,1d727,m3bc;1d728,1d728,m3bd;1d729,1d729,m3be;1d72a,1d72a,m3bf;1d72b,1d72b,m3c0;1d72c,1d72c,m3c1;1d72d,1d72d,m3b8;1d72e,1d72e,m3c3;1d72f,1d72f,m3c4;1d730,1d730,m3c5;1d731,1d731,m3c6;1d732,1d732,m3c7;1d733,1d733,m3c8;1d734,1d734,m3c9;1",
    "d735,1d735,m2207;1d736,1d736,m3b1;1d737,1d737,m3b2;1d738,1d738,m3b3;1d739,1d739,m3b4;1d73a,1d73a,m3b5;1d73b,1d73b,m3b6;1d73c,1d73c,m3b7;1d73d,1d73d,m3b8;1d73e,1d73e,m3b9;1d73f,1d73f,m3ba;1d740,1d740,m3bb;1d741,1d741,m3bc;1d742,1d742,m3bd;1d743,1d743,m3be;1d744,1d744,m3bf;1d745,1d745,m3c0;1d746,1d746,m3c1;1d747,1d748,m3c3;1d749,1d749,m3c4;1d74a,1d74a,m3c5;1d74b,1d74b,m3c6;1d74c,1d74c,m3c7;1d74d,1d74d,m3c8;1d74e,1d74e,m3c9;1d74f,1d74f,m2202;1d750,1d750,m3b5;1d751,1d751,m3b8;1d752,1d752,m3ba;1d753,1d753,m3c6;1d754,1d754,m3c1;1d755,1d755,m3c0;1d756,1d756,m3b1;1d757,1d757,m3b2;1d758,1d758,m3b3;1d759,1d759,m3b4;1d75a,1d75a,m3b5;1d75b,1d75b,m3b6;1d75c,1d75c,m3b7;1d75d,1d75d,m3b8;1d75e,1d75e,m3b9;1d75f,1d75f,m3ba;1d760,1d760,m3bb;1d761,1d761,m3bc;1d762,1d762,m3bd;1d763,1d763,m3be;1d764,1d764,m3bf;1d765,1d765,m3c0;1d766,1d766,m3c1;1d767,1d767,m3b8;1d768,1d768,m3c3;1d769,1d769,m3c4;1d76a,1d76a,m3c5;1d76b,1d76b,m3c6;1d76c,1d76c,m3c7;1d76d,1d76d,m3c8;1d76e,1d76e,m3c9;1d76f,1d76f,m2207;1d770,1d770,",
    "m3b1;1d771,1d771,m3b2;1d772,1d772,m3b3;1d773,1d773,m3b4;1d774,1d774,m3b5;1d775,1d775,m3b6;1d776,1d776,m3b7;1d777,1d777,m3b8;1d778,1d778,m3b9;1d779,1d779,m3ba;1d77a,1d77a,m3bb;1d77b,1d77b,m3bc;1d77c,1d77c,m3bd;1d77d,1d77d,m3be;1d77e,1d77e,m3bf;1d77f,1d77f,m3c0;1d780,1d780,m3c1;1d781,1d782,m3c3;1d783,1d783,m3c4;1d784,1d784,m3c5;1d785,1d785,m3c6;1d786,1d786,m3c7;1d787,1d787,m3c8;1d788,1d788,m3c9;1d789,1d789,m2202;1d78a,1d78a,m3b5;1d78b,1d78b,m3b8;1d78c,1d78c,m3ba;1d78d,1d78d,m3c6;1d78e,1d78e,m3c1;1d78f,1d78f,m3c0;1d790,1d790,m3b1;1d791,1d791,m3b2;1d792,1d792,m3b3;1d793,1d793,m3b4;1d794,1d794,m3b5;1d795,1d795,m3b6;1d796,1d796,m3b7;1d797,1d797,m3b8;1d798,1d798,m3b9;1d799,1d799,m3ba;1d79a,1d79a,m3bb;1d79b,1d79b,m3bc;1d79c,1d79c,m3bd;1d79d,1d79d,m3be;1d79e,1d79e,m3bf;1d79f,1d79f,m3c0;1d7a0,1d7a0,m3c1;1d7a1,1d7a1,m3b8;1d7a2,1d7a2,m3c3;1d7a3,1d7a3,m3c4;1d7a4,1d7a4,m3c5;1d7a5,1d7a5,m3c6;1d7a6,1d7a6,m3c7;1d7a7,1d7a7,m3c8;1d7a8,1d7a8,m3c9;1d7a9,1d7a9,m2207;1d7aa,1d7aa,m3b1;1d7ab,1d7ab,m3b2;1d7ac,1",
    "d7ac,m3b3;1d7ad,1d7ad,m3b4;1d7ae,1d7ae,m3b5;1d7af,1d7af,m3b6;1d7b0,1d7b0,m3b7;1d7b1,1d7b1,m3b8;1d7b2,1d7b2,m3b9;1d7b3,1d7b3,m3ba;1d7b4,1d7b4,m3bb;1d7b5,1d7b5,m3bc;1d7b6,1d7b6,m3bd;1d7b7,1d7b7,m3be;1d7b8,1d7b8,m3bf;1d7b9,1d7b9,m3c0;1d7ba,1d7ba,m3c1;1d7bb,1d7bc,m3c3;1d7bd,1d7bd,m3c4;1d7be,1d7be,m3c5;1d7bf,1d7bf,m3c6;1d7c0,1d7c0,m3c7;1d7c1,1d7c1,m3c8;1d7c2,1d7c2,m3c9;1d7c3,1d7c3,m2202;1d7c4,1d7c4,m3b5;1d7c5,1d7c5,m3b8;1d7c6,1d7c6,m3ba;1d7c7,1d7c7,m3c6;1d7c8,1d7c8,m3c1;1d7c9,1d7c9,m3c0;1d7ca,1d7cb,m3dd;1d7cc,1d7cd,x;1d7ce,1d7ce,m30;1d7cf,1d7cf,m31;1d7d0,1d7d0,m32;1d7d1,1d7d1,m33;1d7d2,1d7d2,m34;1d7d3,1d7d3,m35;1d7d4,1d7d4,m36;1d7d5,1d7d5,m37;1d7d6,1d7d6,m38;1d7d7,1d7d7,m39;1d7d8,1d7d8,m30;1d7d9,1d7d9,m31;1d7da,1d7da,m32;1d7db,1d7db,m33;1d7dc,1d7dc,m34;1d7dd,1d7dd,m35;1d7de,1d7de,m36;1d7df,1d7df,m37;1d7e0,1d7e0,m38;1d7e1,1d7e1,m39;1d7e2,1d7e2,m30;1d7e3,1d7e3,m31;1d7e4,1d7e4,m32;1d7e5,1d7e5,m33;1d7e6,1d7e6,m34;1d7e7,1d7e7,m35;1d7e8,1d7e8,m36;1d7e9,1d7e9,m37;1d7ea,1d7ea,m38;1d7eb,1d7eb,m39;1d",
    "7ec,1d7ec,m30;1d7ed,1d7ed,m31;1d7ee,1d7ee,m32;1d7ef,1d7ef,m33;1d7f0,1d7f0,m34;1d7f1,1d7f1,m35;1d7f2,1d7f2,m36;1d7f3,1d7f3,m37;1d7f4,1d7f4,m38;1d7f5,1d7f5,m39;1d7f6,1d7f6,m30;1d7f7,1d7f7,m31;1d7f8,1d7f8,m32;1d7f9,1d7f9,m33;1d7fa,1d7fa,m34;1d7fb,1d7fb,m35;1d7fc,1d7fc,m36;1d7fd,1d7fd,m37;1d7fe,1d7fe,m38;1d7ff,1d7ff,m39;1da8c,1da9a,x;1daa0,1daa0,x;1dab0,1deff,x;1df1f,1df24,x;1df2b,1dfff,x;1e007,1e007,x;1e019,1e01a,x;1e022,1e022,x;1e025,1e025,x;1e02b,1e02f,x;1e030,1e030,m430;1e031,1e031,m431;1e032,1e032,m432;1e033,1e033,m433;1e034,1e034,m434;1e035,1e035,m435;1e036,1e036,m436;1e037,1e037,m437;1e038,1e038,m438;1e039,1e039,m43a;1e03a,1e03a,m43b;1e03b,1e03b,m43c;1e03c,1e03c,m43e;1e03d,1e03d,m43f;1e03e,1e03e,m440;1e03f,1e03f,m441;1e040,1e040,m442;1e041,1e041,m443;1e042,1e042,m444;1e043,1e043,m445;1e044,1e044,m446;1e045,1e045,m447;1e046,1e046,m448;1e047,1e047,m44b;1e048,1e048,m44d;1e049,1e049,m44e;1e04a,1e04a,ma689;1e04b,1e04b,m4d9;1e04c,1e04c,m456;1e04d,1e04d,m458;1e04e,1e04e,m4e9;1e04f,1e04f,m4",
    "af;1e050,1e050,m4cf;1e051,1e051,m430;1e052,1e052,m431;1e053,1e053,m432;1e054,1e054,m433;1e055,1e055,m434;1e056,1e056,m435;1e057,1e057,m436;1e058,1e058,m437;1e059,1e059,m438;1e05a,1e05a,m43a;1e05b,1e05b,m43b;1e05c,1e05c,m43e;1e05d,1e05d,m43f;1e05e,1e05e,m441;1e05f,1e05f,m443;1e060,1e060,m444;1e061,1e061,m445;1e062,1e062,m446;1e063,1e063,m447;1e064,1e064,m448;1e065,1e065,m44a;1e066,1e066,m44b;1e067,1e067,m491;1e068,1e068,m456;1e069,1e069,m455;1e06a,1e06a,m45f;1e06b,1e06b,m4ab;1e06c,1e06c,ma651;1e06d,1e06d,m4b1;1e06e,1e08e,x;1e090,1e0ff,x;1e12d,1e12f,x;1e13e,1e13f,x;1e14a,1e14d,x;1e150,1e28f,x;1e2af,1e2bf,x;1e2fa,1e2fe,x;1e300,1e4cf,x;1e4fa,1e5cf,x;1e5fb,1e5fe,x;1e600,1e6bf,x;1e6df,1e6df,x;1e6f6,1e6fd,x;1e700,1e7df,x;1e7e7,1e7e7,x;1e7ec,1e7ec,x;1e7ef,1e7ef,x;1e7ff,1e7ff,x;1e8c5,1e8c6,x;1e8d7,1e8ff,x;1e900,1e900,m1e922;1e901,1e901,m1e923;1e902,1e902,m1e924;1e903,1e903,m1e925;1e904,1e904,m1e926;1e905,1e905,m1e927;1e906,1e906,m1e928;1e907,1e907,m1e929;1e908,1e908,m1e92a;1e909,1e909,m1e92b;1e",
    "90a,1e90a,m1e92c;1e90b,1e90b,m1e92d;1e90c,1e90c,m1e92e;1e90d,1e90d,m1e92f;1e90e,1e90e,m1e930;1e90f,1e90f,m1e931;1e910,1e910,m1e932;1e911,1e911,m1e933;1e912,1e912,m1e934;1e913,1e913,m1e935;1e914,1e914,m1e936;1e915,1e915,m1e937;1e916,1e916,m1e938;1e917,1e917,m1e939;1e918,1e918,m1e93a;1e919,1e919,m1e93b;1e91a,1e91a,m1e93c;1e91b,1e91b,m1e93d;1e91c,1e91c,m1e93e;1e91d,1e91d,m1e93f;1e91e,1e91e,m1e940;1e91f,1e91f,m1e941;1e920,1e920,m1e942;1e921,1e921,m1e943;1e94c,1e94f,x;1e95a,1e95d,x;1e960,1ec70,x;1ecb5,1ed00,x;1ed3e,1edff,x;1ee00,1ee00,m627;1ee01,1ee01,m628;1ee02,1ee02,m62c;1ee03,1ee03,m62f;1ee04,1ee04,x;1ee05,1ee05,m648;1ee06,1ee06,m632;1ee07,1ee07,m62d;1ee08,1ee08,m637;1ee09,1ee09,m64a;1ee0a,1ee0a,m643;1ee0b,1ee0b,m644;1ee0c,1ee0c,m645;1ee0d,1ee0d,m646;1ee0e,1ee0e,m633;1ee0f,1ee0f,m639;1ee10,1ee10,m641;1ee11,1ee11,m635;1ee12,1ee12,m642;1ee13,1ee13,m631;1ee14,1ee14,m634;1ee15,1ee15,m62a;1ee16,1ee16,m62b;1ee17,1ee17,m62e;1ee18,1ee18,m630;1ee19,1ee19,m636;1ee1a,1ee1a,m638;1ee1b,1ee1b,m63a;1ee",
    "1c,1ee1c,m66e;1ee1d,1ee1d,m6ba;1ee1e,1ee1e,m6a1;1ee1f,1ee1f,m66f;1ee20,1ee20,x;1ee21,1ee21,m628;1ee22,1ee22,m62c;1ee23,1ee23,x;1ee24,1ee24,m647;1ee25,1ee26,x;1ee27,1ee27,m62d;1ee28,1ee28,x;1ee29,1ee29,m64a;1ee2a,1ee2a,m643;1ee2b,1ee2b,m644;1ee2c,1ee2c,m645;1ee2d,1ee2d,m646;1ee2e,1ee2e,m633;1ee2f,1ee2f,m639;1ee30,1ee30,m641;1ee31,1ee31,m635;1ee32,1ee32,m642;1ee33,1ee33,x;1ee34,1ee34,m634;1ee35,1ee35,m62a;1ee36,1ee36,m62b;1ee37,1ee37,m62e;1ee38,1ee38,x;1ee39,1ee39,m636;1ee3a,1ee3a,x;1ee3b,1ee3b,m63a;1ee3c,1ee41,x;1ee42,1ee42,m62c;1ee43,1ee46,x;1ee47,1ee47,m62d;1ee48,1ee48,x;1ee49,1ee49,m64a;1ee4a,1ee4a,x;1ee4b,1ee4b,m644;1ee4c,1ee4c,x;1ee4d,1ee4d,m646;1ee4e,1ee4e,m633;1ee4f,1ee4f,m639;1ee50,1ee50,x;1ee51,1ee51,m635;1ee52,1ee52,m642;1ee53,1ee53,x;1ee54,1ee54,m634;1ee55,1ee56,x;1ee57,1ee57,m62e;1ee58,1ee58,x;1ee59,1ee59,m636;1ee5a,1ee5a,x;1ee5b,1ee5b,m63a;1ee5c,1ee5c,x;1ee5d,1ee5d,m6ba;1ee5e,1ee5e,x;1ee5f,1ee5f,m66f;1ee60,1ee60,x;1ee61,1ee61,m628;1ee62,1ee62,m62c;1ee63,1ee63,x;1ee64,1ee64,",
    "m647;1ee65,1ee66,x;1ee67,1ee67,m62d;1ee68,1ee68,m637;1ee69,1ee69,m64a;1ee6a,1ee6a,m643;1ee6b,1ee6b,x;1ee6c,1ee6c,m645;1ee6d,1ee6d,m646;1ee6e,1ee6e,m633;1ee6f,1ee6f,m639;1ee70,1ee70,m641;1ee71,1ee71,m635;1ee72,1ee72,m642;1ee73,1ee73,x;1ee74,1ee74,m634;1ee75,1ee75,m62a;1ee76,1ee76,m62b;1ee77,1ee77,m62e;1ee78,1ee78,x;1ee79,1ee79,m636;1ee7a,1ee7a,m638;1ee7b,1ee7b,m63a;1ee7c,1ee7c,m66e;1ee7d,1ee7d,x;1ee7e,1ee7e,m6a1;1ee7f,1ee7f,x;1ee80,1ee80,m627;1ee81,1ee81,m628;1ee82,1ee82,m62c;1ee83,1ee83,m62f;1ee84,1ee84,m647;1ee85,1ee85,m648;1ee86,1ee86,m632;1ee87,1ee87,m62d;1ee88,1ee88,m637;1ee89,1ee89,m64a;1ee8a,1ee8a,x;1ee8b,1ee8b,m644;1ee8c,1ee8c,m645;1ee8d,1ee8d,m646;1ee8e,1ee8e,m633;1ee8f,1ee8f,m639;1ee90,1ee90,m641;1ee91,1ee91,m635;1ee92,1ee92,m642;1ee93,1ee93,m631;1ee94,1ee94,m634;1ee95,1ee95,m62a;1ee96,1ee96,m62b;1ee97,1ee97,m62e;1ee98,1ee98,m630;1ee99,1ee99,m636;1ee9a,1ee9a,m638;1ee9b,1ee9b,m63a;1ee9c,1eea0,x;1eea1,1eea1,m628;1eea2,1eea2,m62c;1eea3,1eea3,m62f;1eea4,1eea4,x;1eea5,1eea5,m648;1e",
    "ea6,1eea6,m632;1eea7,1eea7,m62d;1eea8,1eea8,m637;1eea9,1eea9,m64a;1eeaa,1eeaa,x;1eeab,1eeab,m644;1eeac,1eeac,m645;1eead,1eead,m646;1eeae,1eeae,m633;1eeaf,1eeaf,m639;1eeb0,1eeb0,m641;1eeb1,1eeb1,m635;1eeb2,1eeb2,m642;1eeb3,1eeb3,m631;1eeb4,1eeb4,m634;1eeb5,1eeb5,m62a;1eeb6,1eeb6,m62b;1eeb7,1eeb7,m62e;1eeb8,1eeb8,m630;1eeb9,1eeb9,m636;1eeba,1eeba,m638;1eebb,1eebb,m63a;1eebc,1eeef,x;1eef2,1efff,x;1f02c,1f02f,x;1f094,1f09f,x;1f0af,1f0b0,x;1f0c0,1f0c0,x;1f0d0,1f0d0,x;1f0f6,1f100,x;1f101,1f101,m30.2c;1f102,1f102,m31.2c;1f103,1f103,m32.2c;1f104,1f104,m33.2c;1f105,1f105,m34.2c;1f106,1f106,m35.2c;1f107,1f107,m36.2c;1f108,1f108,m37.2c;1f109,1f109,m38.2c;1f10a,1f10a,m39.2c;1f110,1f110,m28.61.29;1f111,1f111,m28.62.29;1f112,1f112,m28.63.29;1f113,1f113,m28.64.29;1f114,1f114,m28.65.29;1f115,1f115,m28.66.29;1f116,1f116,m28.67.29;1f117,1f117,m28.68.29;1f118,1f118,m28.69.29;1f119,1f119,m28.6a.29;1f11a,1f11a,m28.6b.29;1f11b,1f11b,m28.6c.29;1f11c,1f11c,m28.6d.29;1f11d,1f11d,m28.6e.29;1f11e,1f11e,m28.6f.29",
    ";1f11f,1f11f,m28.70.29;1f120,1f120,m28.71.29;1f121,1f121,m28.72.29;1f122,1f122,m28.73.29;1f123,1f123,m28.74.29;1f124,1f124,m28.75.29;1f125,1f125,m28.76.29;1f126,1f126,m28.77.29;1f127,1f127,m28.78.29;1f128,1f128,m28.79.29;1f129,1f129,m28.7a.29;1f12a,1f12a,m3014.73.3015;1f12b,1f12b,m63;1f12c,1f12c,m72;1f12d,1f12d,m63.64;1f12e,1f12e,m77.7a;1f130,1f130,m61;1f131,1f131,m62;1f132,1f132,m63;1f133,1f133,m64;1f134,1f134,m65;1f135,1f135,m66;1f136,1f136,m67;1f137,1f137,m68;1f138,1f138,m69;1f139,1f139,m6a;1f13a,1f13a,m6b;1f13b,1f13b,m6c;1f13c,1f13c,m6d;1f13d,1f13d,m6e;1f13e,1f13e,m6f;1f13f,1f13f,m70;1f140,1f140,m71;1f141,1f141,m72;1f142,1f142,m73;1f143,1f143,m74;1f144,1f144,m75;1f145,1f145,m76;1f146,1f146,m77;1f147,1f147,m78;1f148,1f148,m79;1f149,1f149,m7a;1f14a,1f14a,m68.76;1f14b,1f14b,m6d.76;1f14c,1f14c,m73.64;1f14d,1f14d,m73.73;1f14e,1f14e,m70.70.76;1f14f,1f14f,m77.63;1f16a,1f16a,m6d.63;1f16b,1f16b,m6d.64;1f16c,1f16c,m6d.72;1f190,1f190,m64.6a;1f1ae,1f1e5,x;1f200,1f200,m307b.304b;1f201,1f201,m30",
    "b3.30b3;1f202,1f202,m30b5;1f203,1f20f,x;1f210,1f210,m624b;1f211,1f211,m5b57;1f212,1f212,m53cc;1f213,1f213,m30c7;1f214,1f214,m4e8c;1f215,1f215,m591a;1f216,1f216,m89e3;1f217,1f217,m5929;1f218,1f218,m4ea4;1f219,1f219,m6620;1f21a,1f21a,m7121;1f21b,1f21b,m6599;1f21c,1f21c,m524d;1f21d,1f21d,m5f8c;1f21e,1f21e,m518d;1f21f,1f21f,m65b0;1f220,1f220,m521d;1f221,1f221,m7d42;1f222,1f222,m751f;1f223,1f223,m8ca9;1f224,1f224,m58f0;1f225,1f225,m5439;1f226,1f226,m6f14;1f227,1f227,m6295;1f228,1f228,m6355;1f229,1f229,m4e00;1f22a,1f22a,m4e09;1f22b,1f22b,m904a;1f22c,1f22c,m5de6;1f22d,1f22d,m4e2d;1f22e,1f22e,m53f3;1f22f,1f22f,m6307;1f230,1f230,m8d70;1f231,1f231,m6253;1f232,1f232,m7981;1f233,1f233,m7a7a;1f234,1f234,m5408;1f235,1f235,m6e80;1f236,1f236,m6709;1f237,1f237,m6708;1f238,1f238,m7533;1f239,1f239,m5272;1f23a,1f23a,m55b6;1f23b,1f23b,m914d;1f23c,1f23f,x;1f240,1f240,m3014.672c.3015;1f241,1f241,m3014.4e09.3015;1f242,1f242,m3014.4e8c.3015;1f243,1f243,m3014.5b89.3015;1f244,1f244,m3014.70b9.3015;1f245,1f245,m3",
    "014.6253.3015;1f246,1f246,m3014.76d7.3015;1f247,1f247,m3014.52dd.3015;1f248,1f248,m3014.6557.3015;1f249,1f24f,x;1f250,1f250,m5f97;1f251,1f251,m53ef;1f252,1f25f,x;1f266,1f2ff,x;1f6d9,1f6db,x;1f6ed,1f6ef,x;1f6fd,1f6ff,x;1f7da,1f7df,x;1f7ec,1f7ef,x;1f7f1,1f7ff,x;1f80c,1f80f,x;1f848,1f84f,x;1f85a,1f85f,x;1f888,1f88f,x;1f8ae,1f8af,x;1f8bc,1f8bf,x;1f8c2,1f8cf,x;1f8d9,1f8ff,x;1fa58,1fa5f,x;1fa6e,1fa6f,x;1fa7d,1fa7f,x;1fa8b,1fa8d,x;1fac7,1fac7,x;1fac9,1facc,x;1fadd,1fade,x;1faeb,1faee,x;1faf9,1faff,x;1fb93,1fb93,x;1fbf0,1fbf0,m30;1fbf1,1fbf1,m31;1fbf2,1fbf2,m32;1fbf3,1fbf3,m33;1fbf4,1fbf4,m34;1fbf5,1fbf5,m35;1fbf6,1fbf6,m36;1fbf7,1fbf7,m37;1fbf8,1fbf8,m38;1fbf9,1fbf9,m39;1fbfb,1ffff,x;2a6e0,2a6ff,x;2b81e,2b81f,x;2ceae,2ceaf,x;2ebe1,2ebef,x;2ee5e,2f7ff,x;2f800,2f800,m4e3d;2f801,2f801,m4e38;2f802,2f802,m4e41;2f803,2f803,m20122;2f804,2f804,m4f60;2f805,2f805,m4fae;2f806,2f806,m4fbb;2f807,2f807,m5002;2f808,2f808,m507a;2f809,2f809,m5099;2f80a,2f80a,m50e7;2f80b,2f80b,m50cf;2f80c,2f80c,m349e;2f80d,2f8",
    "0d,m2063a;2f80e,2f80e,m514d;2f80f,2f80f,m5154;2f810,2f810,m5164;2f811,2f811,m5177;2f812,2f812,m2051c;2f813,2f813,m34b9;2f814,2f814,m5167;2f815,2f815,m518d;2f816,2f816,m2054b;2f817,2f817,m5197;2f818,2f818,m51a4;2f819,2f819,m4ecc;2f81a,2f81a,m51ac;2f81b,2f81b,m51b5;2f81c,2f81c,m291df;2f81d,2f81d,m51f5;2f81e,2f81e,m5203;2f81f,2f81f,m34df;2f820,2f820,m523b;2f821,2f821,m5246;2f822,2f822,m5272;2f823,2f823,m5277;2f824,2f824,m3515;2f825,2f825,m52c7;2f826,2f826,m52c9;2f827,2f827,m52e4;2f828,2f828,m52fa;2f829,2f829,m5305;2f82a,2f82a,m5306;2f82b,2f82b,m5317;2f82c,2f82c,m5349;2f82d,2f82d,m5351;2f82e,2f82e,m535a;2f82f,2f82f,m5373;2f830,2f830,m537d;2f831,2f833,m537f;2f834,2f834,m20a2c;2f835,2f835,m7070;2f836,2f836,m53ca;2f837,2f837,m53df;2f838,2f838,m20b63;2f839,2f839,m53eb;2f83a,2f83a,m53f1;2f83b,2f83b,m5406;2f83c,2f83c,m549e;2f83d,2f83d,m5438;2f83e,2f83e,m5448;2f83f,2f83f,m5468;2f840,2f840,m54a2;2f841,2f841,m54f6;2f842,2f842,m5510;2f843,2f843,m5553;2f844,2f844,m5563;2f845,2f846,m5584;2f847,2f847,m",
    "5599;2f848,2f848,m55ab;2f849,2f849,m55b3;2f84a,2f84a,m55c2;2f84b,2f84b,m5716;2f84c,2f84c,m5606;2f84d,2f84d,m5717;2f84e,2f84e,m5651;2f84f,2f84f,m5674;2f850,2f850,m5207;2f851,2f851,m58ee;2f852,2f852,m57ce;2f853,2f853,m57f4;2f854,2f854,m580d;2f855,2f855,m578b;2f856,2f856,m5832;2f857,2f857,m5831;2f858,2f858,m58ac;2f859,2f859,m214e4;2f85a,2f85a,m58f2;2f85b,2f85b,m58f7;2f85c,2f85c,m5906;2f85d,2f85d,m591a;2f85e,2f85e,m5922;2f85f,2f85f,m5962;2f860,2f860,m216a8;2f861,2f861,m216ea;2f862,2f862,m59ec;2f863,2f863,m5a1b;2f864,2f864,m5a27;2f865,2f865,m59d8;2f866,2f866,m5a66;2f867,2f867,m36ee;2f868,2f868,m36fc;2f869,2f869,m5b08;2f86a,2f86b,m5b3e;2f86c,2f86c,m219c8;2f86d,2f86d,m5bc3;2f86e,2f86e,m5bd8;2f86f,2f86f,m5be7;2f870,2f870,m5bf3;2f871,2f871,m21b18;2f872,2f872,m5bff;2f873,2f873,m5c06;2f874,2f874,m5f53;2f875,2f875,m5c22;2f876,2f876,m3781;2f877,2f877,m5c60;2f878,2f878,m5c6e;2f879,2f879,m5cc0;2f87a,2f87a,m5c8d;2f87b,2f87b,m21de4;2f87c,2f87c,m5d43;2f87d,2f87d,m21de6;2f87e,2f87e,m5d6e;2f87f,2f87f,m5d6",
    "b;2f880,2f880,m5d7c;2f881,2f881,m5de1;2f882,2f882,m5de2;2f883,2f883,m382f;2f884,2f884,m5dfd;2f885,2f885,m5e28;2f886,2f886,m5e3d;2f887,2f887,m5e69;2f888,2f888,m3862;2f889,2f889,m22183;2f88a,2f88a,m387c;2f88b,2f88b,m5eb0;2f88c,2f88c,m5eb3;2f88d,2f88d,m5eb6;2f88e,2f88e,m5eca;2f88f,2f88f,m2a392;2f890,2f890,m5efe;2f891,2f892,m22331;2f893,2f893,m8201;2f894,2f895,m5f22;2f896,2f896,m38c7;2f897,2f897,m232b8;2f898,2f898,m261da;2f899,2f899,m5f62;2f89a,2f89a,m5f6b;2f89b,2f89b,m38e3;2f89c,2f89c,m5f9a;2f89d,2f89d,m5fcd;2f89e,2f89e,m5fd7;2f89f,2f89f,m5ff9;2f8a0,2f8a0,m6081;2f8a1,2f8a1,m393a;2f8a2,2f8a2,m391c;2f8a3,2f8a3,m6094;2f8a4,2f8a4,m226d4;2f8a5,2f8a5,m60c7;2f8a6,2f8a6,m6148;2f8a7,2f8a7,m614c;2f8a8,2f8a8,m614e;2f8a9,2f8a9,m614c;2f8aa,2f8aa,m617a;2f8ab,2f8ab,m618e;2f8ac,2f8ac,m61b2;2f8ad,2f8ad,m61a4;2f8ae,2f8ae,m61af;2f8af,2f8af,m61de;2f8b0,2f8b0,m61f2;2f8b1,2f8b1,m61f6;2f8b2,2f8b2,m6210;2f8b3,2f8b3,m621b;2f8b4,2f8b4,m625d;2f8b5,2f8b5,m62b1;2f8b6,2f8b6,m62d4;2f8b7,2f8b7,m6350;2f8b8,2f8b8,m22b0c;2",
    "f8b9,2f8b9,m633d;2f8ba,2f8ba,m62fc;2f8bb,2f8bb,m6368;2f8bc,2f8bc,m6383;2f8bd,2f8bd,m63e4;2f8be,2f8be,m22bf1;2f8bf,2f8bf,m6422;2f8c0,2f8c0,m63c5;2f8c1,2f8c1,m63a9;2f8c2,2f8c2,m3a2e;2f8c3,2f8c3,m6469;2f8c4,2f8c4,m647e;2f8c5,2f8c5,m649d;2f8c6,2f8c6,m6477;2f8c7,2f8c7,m3a6c;2f8c8,2f8c8,m654f;2f8c9,2f8c9,m656c;2f8ca,2f8ca,m2300a;2f8cb,2f8cb,m65e3;2f8cc,2f8cc,m66f8;2f8cd,2f8cd,m6649;2f8ce,2f8ce,m3b19;2f8cf,2f8cf,m6691;2f8d0,2f8d0,m3b08;2f8d1,2f8d1,m3ae4;2f8d2,2f8d2,m5192;2f8d3,2f8d3,m5195;2f8d4,2f8d4,m6700;2f8d5,2f8d5,m669c;2f8d6,2f8d6,m80ad;2f8d7,2f8d7,m43d9;2f8d8,2f8d8,m6717;2f8d9,2f8d9,m671b;2f8da,2f8da,m6721;2f8db,2f8db,m675e;2f8dc,2f8dc,m6753;2f8dd,2f8dd,m233c3;2f8de,2f8de,m3b49;2f8df,2f8df,m67fa;2f8e0,2f8e0,m6785;2f8e1,2f8e1,m6852;2f8e2,2f8e2,m6885;2f8e3,2f8e3,m2346d;2f8e4,2f8e4,m688e;2f8e5,2f8e5,m681f;2f8e6,2f8e6,m6914;2f8e7,2f8e7,m3b9d;2f8e8,2f8e8,m6942;2f8e9,2f8e9,m69a3;2f8ea,2f8ea,m69ea;2f8eb,2f8eb,m6aa8;2f8ec,2f8ec,m236a3;2f8ed,2f8ed,m6adb;2f8ee,2f8ee,m3c18;2f8ef,2f8ef,m6b21;2f8f0,",
    "2f8f0,m238a7;2f8f1,2f8f1,m6b54;2f8f2,2f8f2,m3c4e;2f8f3,2f8f3,m6b72;2f8f4,2f8f4,m6b9f;2f8f5,2f8f5,m6bba;2f8f6,2f8f6,m6bbb;2f8f7,2f8f7,m23a8d;2f8f8,2f8f8,m21d0b;2f8f9,2f8f9,m23afa;2f8fa,2f8fa,m6c4e;2f8fb,2f8fb,m23cbc;2f8fc,2f8fc,m6cbf;2f8fd,2f8fd,m6ccd;2f8fe,2f8fe,m6c67;2f8ff,2f8ff,m6d16;2f900,2f900,m6d3e;2f901,2f901,m6d77;2f902,2f902,m6d41;2f903,2f903,m6d69;2f904,2f904,m6d78;2f905,2f905,m6d85;2f906,2f906,m23d1e;2f907,2f907,m6d34;2f908,2f908,m6e2f;2f909,2f909,m6e6e;2f90a,2f90a,m3d33;2f90b,2f90b,m6ecb;2f90c,2f90c,m6ec7;2f90d,2f90d,m23ed1;2f90e,2f90e,m6df9;2f90f,2f90f,m6f6e;2f910,2f910,m23f5e;2f911,2f911,m23f8e;2f912,2f912,m6fc6;2f913,2f913,m7039;2f914,2f914,m701e;2f915,2f915,m701b;2f916,2f916,m3d96;2f917,2f917,m704a;2f918,2f918,m707d;2f919,2f919,m7077;2f91a,2f91a,m70ad;2f91b,2f91b,m20525;2f91c,2f91c,m7145;2f91d,2f91d,m24263;2f91e,2f91e,m719c;2f91f,2f91f,m243ab;2f920,2f920,m7228;2f921,2f921,m7235;2f922,2f922,m7250;2f923,2f923,m24608;2f924,2f924,m7280;2f925,2f925,m7295;2f926,2f926,m24735;2f",
    "927,2f927,m24814;2f928,2f928,m737a;2f929,2f929,m738b;2f92a,2f92a,m3eac;2f92b,2f92b,m73a5;2f92c,2f92d,m3eb8;2f92e,2f92e,m7447;2f92f,2f92f,m745c;2f930,2f930,m7471;2f931,2f931,m7485;2f932,2f932,m74ca;2f933,2f933,m3f1b;2f934,2f934,m7524;2f935,2f935,m24c36;2f936,2f936,m753e;2f937,2f937,m24c92;2f938,2f938,m7570;2f939,2f939,m2219f;2f93a,2f93a,m7610;2f93b,2f93b,m24fa1;2f93c,2f93c,m24fb8;2f93d,2f93d,m25044;2f93e,2f93e,m3ffc;2f93f,2f93f,m4008;2f940,2f940,m76f4;2f941,2f941,m250f3;2f942,2f942,m250f2;2f943,2f943,m25119;2f944,2f944,m25133;2f945,2f945,m771e;2f946,2f947,m771f;2f948,2f948,m774a;2f949,2f949,m4039;2f94a,2f94a,m778b;2f94b,2f94b,m4046;2f94c,2f94c,m4096;2f94d,2f94d,m2541d;2f94e,2f94e,m784e;2f94f,2f94f,m788c;2f950,2f950,m78cc;2f951,2f951,m40e3;2f952,2f952,m25626;2f953,2f953,m7956;2f954,2f954,m2569a;2f955,2f955,m256c5;2f956,2f956,m798f;2f957,2f957,m79eb;2f958,2f958,m412f;2f959,2f959,m7a40;2f95a,2f95a,m7a4a;2f95b,2f95b,m7a4f;2f95c,2f95c,m2597c;2f95d,2f95e,m25aa7;2f95f,2f95f,m7aee;2f960,2f960,m",
    "4202;2f961,2f961,m25bab;2f962,2f962,m7bc6;2f963,2f963,m7bc9;2f964,2f964,m4227;2f965,2f965,m25c80;2f966,2f966,m7cd2;2f967,2f967,m42a0;2f968,2f968,m7ce8;2f969,2f969,m7ce3;2f96a,2f96a,m7d00;2f96b,2f96b,m25f86;2f96c,2f96c,m7d63;2f96d,2f96d,m4301;2f96e,2f96e,m7dc7;2f96f,2f96f,m7e02;2f970,2f970,m7e45;2f971,2f971,m4334;2f972,2f972,m26228;2f973,2f973,m26247;2f974,2f974,m4359;2f975,2f975,m262d9;2f976,2f976,m7f7a;2f977,2f977,m2633e;2f978,2f978,m7f95;2f979,2f979,m7ffa;2f97a,2f97a,m8005;2f97b,2f97b,m264da;2f97c,2f97c,m26523;2f97d,2f97d,m8060;2f97e,2f97e,m265a8;2f97f,2f97f,m8070;2f980,2f980,m2335f;2f981,2f981,m43d5;2f982,2f982,m80b2;2f983,2f983,m8103;2f984,2f984,m440b;2f985,2f985,m813e;2f986,2f986,m5ab5;2f987,2f987,m267a7;2f988,2f988,m267b5;2f989,2f989,m23393;2f98a,2f98a,m2339c;2f98b,2f98b,m8201;2f98c,2f98c,m8204;2f98d,2f98d,m8f9e;2f98e,2f98e,m446b;2f98f,2f98f,m8291;2f990,2f990,m828b;2f991,2f991,m829d;2f992,2f992,m52b3;2f993,2f993,m82b1;2f994,2f994,m82b3;2f995,2f995,m82bd;2f996,2f996,m82e6;2f997,2f",
    "997,m26b3c;2f998,2f998,m82e5;2f999,2f999,m831d;2f99a,2f99a,m8363;2f99b,2f99b,m83ad;2f99c,2f99c,m8323;2f99d,2f99d,m83bd;2f99e,2f99e,m83e7;2f99f,2f99f,m8457;2f9a0,2f9a0,m8353;2f9a1,2f9a1,m83ca;2f9a2,2f9a2,m83cc;2f9a3,2f9a3,m83dc;2f9a4,2f9a4,m26c36;2f9a5,2f9a5,m26d6b;2f9a6,2f9a6,m26cd5;2f9a7,2f9a7,m452b;2f9a8,2f9a8,m84f1;2f9a9,2f9a9,m84f3;2f9aa,2f9aa,m8516;2f9ab,2f9ab,m273ca;2f9ac,2f9ac,m8564;2f9ad,2f9ad,m26f2c;2f9ae,2f9ae,m455d;2f9af,2f9af,m4561;2f9b0,2f9b0,m26fb1;2f9b1,2f9b1,m270d2;2f9b2,2f9b2,m456b;2f9b3,2f9b3,m8650;2f9b4,2f9b4,m865c;2f9b5,2f9b5,m8667;2f9b6,2f9b6,m8669;2f9b7,2f9b7,m86a9;2f9b8,2f9b8,m8688;2f9b9,2f9b9,m870e;2f9ba,2f9ba,m86e2;2f9bb,2f9bb,m8779;2f9bc,2f9bc,m8728;2f9bd,2f9bd,m876b;2f9be,2f9be,m8786;2f9bf,2f9bf,m45d7;2f9c0,2f9c0,m87e1;2f9c1,2f9c1,m8801;2f9c2,2f9c2,m45f9;2f9c3,2f9c3,m8860;2f9c4,2f9c4,m8863;2f9c5,2f9c5,m27667;2f9c6,2f9c6,m88d7;2f9c7,2f9c7,m88de;2f9c8,2f9c8,m4635;2f9c9,2f9c9,m88fa;2f9ca,2f9ca,m34bb;2f9cb,2f9cb,m278ae;2f9cc,2f9cc,m27966;2f9cd,2f9cd,m46be;2f9ce,2",
    "f9ce,m46c7;2f9cf,2f9cf,m8aa0;2f9d0,2f9d0,m8aed;2f9d1,2f9d1,m8b8a;2f9d2,2f9d2,m8c55;2f9d3,2f9d3,m27ca8;2f9d4,2f9d4,m8cab;2f9d5,2f9d5,m8cc1;2f9d6,2f9d6,m8d1b;2f9d7,2f9d7,m8d77;2f9d8,2f9d8,m27f2f;2f9d9,2f9d9,m20804;2f9da,2f9da,m8dcb;2f9db,2f9db,m8dbc;2f9dc,2f9dc,m8df0;2f9dd,2f9dd,m208de;2f9de,2f9de,m8ed4;2f9df,2f9df,m8f38;2f9e0,2f9e0,m285d2;2f9e1,2f9e1,m285ed;2f9e2,2f9e2,m9094;2f9e3,2f9e3,m90f1;2f9e4,2f9e4,m9111;2f9e5,2f9e5,m2872e;2f9e6,2f9e6,m911b;2f9e7,2f9e7,m9238;2f9e8,2f9e8,m92d7;2f9e9,2f9e9,m92d8;2f9ea,2f9ea,m927c;2f9eb,2f9eb,m93f9;2f9ec,2f9ec,m9415;2f9ed,2f9ed,m28bfa;2f9ee,2f9ee,m958b;2f9ef,2f9ef,m4995;2f9f0,2f9f0,m95b7;2f9f1,2f9f1,m28d77;2f9f2,2f9f2,m49e6;2f9f3,2f9f3,m96c3;2f9f4,2f9f4,m5db2;2f9f5,2f9f5,m9723;2f9f6,2f9f6,m29145;2f9f7,2f9f7,m2921a;2f9f8,2f9f8,m4a6e;2f9f9,2f9f9,m4a76;2f9fa,2f9fa,m97e0;2f9fb,2f9fb,m2940a;2f9fc,2f9fc,m4ab2;2f9fd,2f9fd,m29496;2f9fe,2f9ff,m980b;2fa00,2fa00,m9829;2fa01,2fa01,m295b6;2fa02,2fa02,m98e2;2fa03,2fa03,m4b33;2fa04,2fa04,m9929;2fa05,2fa05,m99a7;2fa",
    "06,2fa06,m99c2;2fa07,2fa07,m99fe;2fa08,2fa08,m4bce;2fa09,2fa09,m29b30;2fa0a,2fa0a,m9b12;2fa0b,2fa0b,m9c40;2fa0c,2fa0c,m9cfd;2fa0d,2fa0d,m4cce;2fa0e,2fa0e,m4ced;2fa0f,2fa0f,m9d67;2fa10,2fa10,m2a0ce;2fa11,2fa11,m4cf8;2fa12,2fa12,m2a105;2fa13,2fa13,m2a20e;2fa14,2fa14,m2a291;2fa15,2fa15,m9ebb;2fa16,2fa16,m4d56;2fa17,2fa17,m9ef9;2fa18,2fa18,m9efe;2fa19,2fa19,m9f05;2fa1a,2fa1a,m9f0f;2fa1b,2fa1b,m9f16;2fa1c,2fa1c,m9f3b;2fa1d,2fa1d,m2a600;2fa1e,2ffff,x;3134b,3134f,x;3347a,e00ff,x;e0100,e01ef,i;e01f0,10ffff,x"]

/-- The UTS #46 mapping table. -/
def idnaMappingTable : RangeTable IdnaStatus :=
  RangeTable.decode idnaMappingText .valid .valid IdnaStatus.ofToken

/-- The UTS #46 status of a character. -/
def idnaStatus (c : Char) : IdnaStatus := idnaMappingTable.get c

end L10nLint.Unicode
