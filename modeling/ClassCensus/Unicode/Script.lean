import ClassCensus.Unicode.Table

/-!
# Scripts

The script of every character, as a list of runs, and the names of the scripts. Characters
without a script have the code `Zzzz`.
-/

namespace ClassCensus.Unicode

/-- The runs of characters of one script from U+0000 on: a code and a number of characters, one
where no number is given. -/
def scriptText : List String :=
    ["Zyyy65 Latn26 Zyyy6 Latn26 Zyyy47 Latn Zyyy15 Latn Zyyy5 Latn23 Zyyy Latn31 Zyyy",
    "Latn449 Zyyy39 Latn5 Zyyy5 Bopo2 Zyyy20 Zinh112 Grek4 Zyyy Grek3 Zzzz2 Grek4 Zyyy Grek",
    "Zzzz4 Grek Zyyy Grek Zyyy Grek3 Zzzz Grek Zzzz Grek20 Zzzz Grek63 Copt14 Grek16",
    "Cyrl133 Zinh2 Cyrl169 Zzzz Armn38 Zzzz2 Armn50 Zzzz2 Armn3 Zzzz Hebr55 Zzzz8 Hebr27",
    "Zzzz4 Hebr6 Zzzz11 Arab5 Zyyy Arab6 Zyyy Arab14 Zyyy Arab3 Zyyy Arab32 Zyyy Arab10",
    "Zinh11 Arab26 Zinh Arab108 Zyyy Arab34 Syrc14 Zzzz Syrc60 Zzzz2 Syrc3 Arab48 Thaa50",
    "Zzzz14 Nkoo59 Zzzz2 Nkoo3 Samr46 Zzzz2 Samr15 Zzzz Mand28 Zzzz2 Mand Zzzz Syrc11 Zzzz5",
    "Arab34 Zzzz5 Arab75 Zyyy Arab29 Deva81 Zinh4 Deva15 Zyyy2 Deva26 Beng4 Zzzz Beng8",
    "Zzzz2 Beng2 Zzzz2 Beng22 Zzzz Beng7 Zzzz Beng Zzzz3 Beng4 Zzzz2 Beng9 Zzzz2 Beng2",
    "Zzzz2 Beng4 Zzzz8 Beng Zzzz4 Beng2 Zzzz Beng5 Zzzz2 Beng25 Zzzz2 Guru3 Zzzz Guru6",
    "Zzzz4 Guru2 Zzzz2 Guru22 Zzzz Guru7 Zzzz Guru2 Zzzz Guru2 Zzzz Guru2 Zzzz2 Guru Zzzz",
    "Guru5 Zzzz4 Guru2 Zzzz2 Guru3 Zzzz3 Guru Zzzz7 Guru4 Zzzz Guru Zzzz7 Guru17 Zzzz10",
    "Gujr3 Zzzz Gujr9 Zzzz Gujr3 Zzzz Gujr22 Zzzz Gujr7 Zzzz Gujr2 Zzzz Gujr5 Zzzz2 Gujr10",
    "Zzzz Gujr3 Zzzz Gujr3 Zzzz2 Gujr Zzzz15 Gujr4 Zzzz2 Gujr12 Zzzz7 Gujr7 Zzzz Orya3 Zzzz",
    "Orya8 Zzzz2 Orya2 Zzzz2 Orya22 Zzzz Orya7 Zzzz Orya2 Zzzz Orya5 Zzzz2 Orya9 Zzzz2",
    "Orya2 Zzzz2 Orya3 Zzzz7 Orya3 Zzzz4 Orya2 Zzzz Orya5 Zzzz2 Orya18 Zzzz10 Taml2 Zzzz",
    "Taml6 Zzzz3 Taml3 Zzzz Taml4 Zzzz3 Taml2 Zzzz Taml Zzzz Taml2 Zzzz3 Taml2 Zzzz3 Taml3",
    "Zzzz3 Taml12 Zzzz4 Taml5 Zzzz3 Taml3 Zzzz Taml4 Zzzz2 Taml Zzzz6 Taml Zzzz14 Taml21",
    "Zzzz5 Telu13 Zzzz Telu3 Zzzz Telu23 Zzzz Telu16 Zzzz2 Telu9 Zzzz Telu3 Zzzz Telu4",
    "Zzzz7 Telu2 Zzzz Telu3 Zzzz Telu2 Zzzz2 Telu4 Zzzz2 Telu10 Zzzz7 Telu9 Knda13 Zzzz",
    "Knda3 Zzzz Knda23 Zzzz Knda10 Zzzz Knda5 Zzzz2 Knda9 Zzzz Knda3 Zzzz Knda4 Zzzz7 Knda2",
    "Zzzz5 Knda3 Zzzz Knda4 Zzzz2 Knda10 Zzzz Knda3 Zzzz12 Mlym13 Zzzz Mlym3 Zzzz Mlym51",
    "Zzzz Mlym3 Zzzz Mlym6 Zzzz4 Mlym16 Zzzz2 Mlym26 Zzzz Sinh3 Zzzz Sinh18 Zzzz3 Sinh24",
    "Zzzz Sinh9 Zzzz Sinh Zzzz2 Sinh7 Zzzz3 Sinh Zzzz4 Sinh6 Zzzz Sinh Zzzz Sinh8 Zzzz6",
    "Sinh10 Zzzz2 Sinh3 Zzzz12 Thai58 Zzzz4 Zyyy Thai28 Zzzz37 Laoo2 Zzzz Laoo Zzzz Laoo5",
    "Zzzz Laoo24 Zzzz Laoo Zzzz Laoo23 Zzzz2 Laoo5 Zzzz Laoo Zzzz Laoo7 Zzzz Laoo10 Zzzz2",
    "Laoo4 Zzzz32 Tibt72 Zzzz Tibt36 Zzzz4 Tibt39 Zzzz Tibt36 Zzzz Tibt15 Zzzz Tibt7 Zyyy4",
    "Tibt2 Zzzz37 Mymr160 Geor38 Zzzz Geor Zzzz5 Geor Zzzz2 Geor43 Zyyy Geor4 Hang256",
    "Ethi73 Zzzz Ethi4 Zzzz2 Ethi7 Zzzz Ethi Zzzz Ethi4 Zzzz2 Ethi41 Zzzz Ethi4 Zzzz2",
    "Ethi33 Zzzz Ethi4 Zzzz2 Ethi7 Zzzz Ethi Zzzz Ethi4 Zzzz2 Ethi15 Zzzz Ethi57 Zzzz Ethi4",
    "Zzzz2 Ethi67 Zzzz2 Ethi32 Zzzz3 Ethi26 Zzzz6 Cher86 Zzzz2 Cher6 Zzzz2 Cans640 Ogam29",
    "Zzzz3 Runr75 Zyyy3 Runr11 Zzzz7 Tglg22 Zzzz9 Tglg Hano21 Zyyy2 Zzzz9 Buhd20 Zzzz12",
    "Tagb13 Zzzz Tagb3 Zzzz Tagb2 Zzzz12 Khmr94 Zzzz2 Khmr10 Zzzz6 Khmr10 Zzzz6 Mong2 Zyyy2",
    "Mong Zyyy Mong20 Zzzz6 Mong89 Zzzz7 Mong43 Zzzz5 Cans70 Zzzz10 Limb31 Zzzz Limb12",
    "Zzzz4 Limb12 Zzzz4 Limb Zzzz3 Limb12 Tale30 Zzzz2 Tale5 Zzzz11 Talu44 Zzzz4 Talu26",
    "Zzzz6 Talu11 Zzzz3 Talu2 Khmr32 Bugi28 Zzzz2 Bugi2 Lana63 Zzzz Lana29 Zzzz2 Lana11",
    "Zzzz6 Lana10 Zzzz6 Lana14 Zzzz2 Zinh46 Zzzz2 Zinh12 Zzzz20 Bali77 Zzzz Bali50 Sund64",
    "Batk52 Zzzz8 Batk4 Lepc56 Zzzz3 Lepc15 Zzzz3 Lepc3 Olck48 Cyrl11 Zzzz5 Geor43 Zzzz2",
    "Geor3 Sund8 Zzzz8 Zinh3 Zyyy Zinh13 Zyyy Zinh7 Zyyy4 Zinh Zyyy6 Zinh Zyyy3 Zinh2 Zyyy",
    "Zzzz5 Latn38 Grek5 Cyrl Latn49 Grek5 Latn4 Grek5 Latn13 Cyrl Latn70 Grek Zinh64",
    "Latn256 Grek22 Zzzz2 Grek6 Zzzz2 Grek38 Zzzz2 Grek6 Zzzz2 Grek8 Zzzz Grek Zzzz Grek",
    "Zzzz Grek Zzzz Grek31 Zzzz2 Grek53 Zzzz Grek15 Zzzz Grek14 Zzzz2 Grek6 Zzzz Grek19",
    "Zzzz2 Grek3 Zzzz Grek9 Zzzz Zyyy12 Zinh2 Zyyy87 Zzzz Zyyy11 Latn Zzzz2 Zyyy11 Latn",
    "Zyyy15 Zzzz Latn13 Zzzz3 Zyyy34 Zzzz14 Zinh33 Zzzz15 Zyyy38 Grek Zyyy3 Latn2 Zyyy6",
    "Latn Zyyy27 Latn Zyyy17 Latn41 Zyyy3 Zzzz4 Zyyy666 Zzzz22 Zyyy11 Zzzz21 Zyyy928",
    "Brai256 Zyyy628 Zzzz2 Zyyy138 Glag96 Latn32 Copt116 Zzzz5 Copt7 Geor38 Zzzz Geor Zzzz5",
    "Geor Zzzz2 Tfng56 Zzzz7 Tfng2 Zzzz14 Tfng Ethi23 Zzzz9 Ethi7 Zzzz Ethi7 Zzzz Ethi7",
    "Zzzz Ethi7 Zzzz Ethi7 Zzzz Ethi7 Zzzz Ethi7 Zzzz Ethi7 Zzzz Cyrl32 Zyyy94 Zzzz34",
    "Hani26 Zzzz Hani89 Zzzz12 Hani214 Zzzz26 Zyyy21 Hani Zyyy Hani Zyyy25 Hani9 Zinh4",
    "Hang2 Zyyy8 Hani4 Zyyy4 Zzzz Hira86 Zzzz2 Zinh2 Zyyy2 Hira3 Zyyy Kana90 Zyyy2 Kana3",
    "Zzzz5 Bopo43 Zzzz Hang94 Zzzz Zyyy16 Bopo32 Zyyy38 Zzzz9 Zyyy Kana16 Hang31 Zzzz",
    "Zyyy64 Hang31 Zyyy81 Kana47 Zyyy Kana88 Zyyy168 Hani6592 Zyyy64 Hani20992 Yiii1165",
    "Zzzz3 Yiii55 Zzzz9 Lisu48 Vaii300 Zzzz20 Cyrl96 Bamu88 Zzzz8 Zyyy34 Latn102 Zyyy3",
    "Latn82 Zzzz20 Latn15 Sylo45 Zzzz3 Zyyy10 Zzzz6 Phag56 Zzzz8 Saur70 Zzzz8 Saur12 Zzzz6",
    "Deva32 Kali46 Zyyy Kali Rjng36 Zzzz11 Rjng Hang29 Zzzz3 Java78 Zzzz Zyyy Java10 Zzzz4",
    "Java2 Mymr31 Zzzz Cham55 Zzzz9 Cham14 Zzzz2 Cham10 Zzzz2 Cham4 Mymr32 Tavt67 Zzzz24",
    "Tavt5 Mtei23 Zzzz10 Ethi6 Zzzz2 Ethi6 Zzzz2 Ethi6 Zzzz9 Ethi7 Zzzz Ethi7 Zzzz Latn43",
    "Zyyy Latn9 Grek Latn4 Zyyy2 Zzzz4 Cher80 Mtei46 Zzzz2 Mtei10 Zzzz6 Hang11172 Zzzz12",
    "Hang23 Zzzz4 Hang49 Zzzz8452 Hani366 Zzzz2 Hani106 Zzzz38 Latn7 Zzzz12 Armn5 Zzzz5",
    "Hebr26 Zzzz Hebr5 Zzzz Hebr Zzzz Hebr2 Zzzz Hebr2 Zzzz Hebr10 Arab494 Zyyy2 Arab144",
    "Zzzz32 Arab16 Zinh16 Zyyy10 Zzzz6 Zinh14 Cyrl2 Zyyy35 Zzzz Zyyy19 Zzzz Zyyy4 Zzzz4",
    "Arab5 Zzzz Arab135 Zzzz2 Zyyy Zzzz Zyyy32 Latn26 Zyyy6 Latn26 Zyyy11 Kana10 Zyyy",
    "Kana45 Zyyy2 Hang31 Zzzz3 Hang6 Zzzz2 Hang6 Zzzz2 Hang6 Zzzz2 Hang3 Zzzz3 Zyyy7 Zzzz",
    "Zyyy7 Zzzz10 Zyyy5 Zzzz2 Linb12 Zzzz Linb26 Zzzz Linb19 Zzzz Linb2 Zzzz Linb15 Zzzz2",
    "Linb14 Zzzz34 Linb123 Zzzz5 Zyyy3 Zzzz4 Zyyy45 Zzzz3 Zyyy9 Grek79 Zzzz Zyyy13 Zzzz3",
    "Grek Zzzz47 Zyyy45 Zinh Zzzz130 Lyci29 Zzzz3 Cari49 Zzzz15 Zinh Zyyy27 Zzzz4 Ital36",
    "Zzzz9 Ital3 Goth27 Zzzz5 Perm43 Zzzz5 Ugar30 Zzzz Ugar Xpeo36 Zzzz4 Xpeo14 Zzzz42",
    "Dsrt80 Shaw48 Osma30 Zzzz2 Osma10 Zzzz6 Osge36 Zzzz4 Osge36 Zzzz4 Elba40 Zzzz8 Aghb52",
    "Zzzz11 Aghb Vith11 Zzzz Vith15 Zzzz Vith7 Zzzz Vith2 Zzzz Vith11 Zzzz Vith15 Zzzz",
    "Vith7 Zzzz Vith2 Zzzz3 Todr52 Zzzz12 Lina311 Zzzz9 Lina22 Zzzz10 Lina8 Zzzz24 Latn6",
    "Zzzz Latn42 Zzzz Latn9 Zzzz69 Cprt6 Zzzz2 Cprt Zzzz Cprt44 Zzzz Cprt2 Zzzz3 Cprt Zzzz2",
    "Cprt Armi22 Zzzz Armi9 Palm32 Nbat31 Zzzz8 Nbat9 Zzzz48 Hatr19 Zzzz Hatr2 Zzzz5 Hatr5",
    "Phnx28 Zzzz3 Phnx Lydi26 Zzzz5 Lydi Zzzz64 Mero32 Merc24 Zzzz4 Merc20 Zzzz2 Merc46",
    "Khar4 Zzzz Khar2 Zzzz5 Khar8 Zzzz Khar3 Zzzz Khar29 Zzzz2 Khar3 Zzzz4 Khar10 Zzzz7",
    "Khar9 Zzzz7 Sarb32 Narb32 Zzzz32 Mani39 Zzzz4 Mani12 Zzzz9 Avst54 Zzzz3 Avst7 Prti22",
    "Zzzz2 Prti8 Phli19 Zzzz5 Phli8 Phlp18 Zzzz7 Phlp4 Zzzz12 Phlp7 Zzzz80 Orkh73 Zzzz55",
    "Hung51 Zzzz13 Hung51 Zzzz7 Hung6 Rohg40 Zzzz8 Rohg10 Zzzz6 Gara38 Zzzz3 Gara29 Zzzz8",
    "Gara2 Zzzz208 Arab31 Zzzz Yezi42 Zzzz Yezi3 Zzzz2 Yezi2 Zzzz16 Arab6 Zzzz8 Arab9",
    "Zzzz33 Arab6 Sogo40 Zzzz8 Sogd42 Zzzz22 Ougr26 Zzzz38 Chrs28 Zzzz20 Elym23 Zzzz9",
    "Brah78 Zzzz4 Brah36 Zzzz9 Brah Kthi67 Zzzz10 Kthi Zzzz2 Sora25 Zzzz7 Sora10 Zzzz6",
    "Cakm53 Zzzz Cakm18 Zzzz8 Mahj39 Zzzz9 Shrd96 Zzzz Sinh20 Zzzz11 Khoj18 Zzzz Khoj47",
    "Zzzz62 Mult7 Zzzz Mult Zzzz Mult4 Zzzz Mult15 Zzzz Mult11 Zzzz6 Sind59 Zzzz5 Sind10",
    "Zzzz6 Gran4 Zzzz Gran8 Zzzz2 Gran2 Zzzz2 Gran22 Zzzz Gran7 Zzzz Gran2 Zzzz Gran5 Zzzz",
    "Zinh Gran9 Zzzz2 Gran2 Zzzz2 Gran3 Zzzz2 Gran Zzzz6 Gran Zzzz5 Gran7 Zzzz2 Gran7 Zzzz3",
    "Gran5 Zzzz11 Tutg10 Zzzz Tutg Zzzz2 Tutg Zzzz Tutg38 Zzzz Tutg10 Zzzz Tutg Zzzz2 Tutg",
    "Zzzz Tutg4 Zzzz Tutg10 Zzzz Tutg2 Zzzz8 Tutg2 Zzzz29 Newa92 Zzzz Newa5 Zzzz30 Tirh72",
    "Zzzz8 Tirh10 Zzzz166 Sidd54 Zzzz2 Sidd38 Zzzz34 Modi69 Zzzz11 Modi10 Zzzz6 Mong13",
    "Zzzz19 Takr58 Zzzz6 Takr10 Zzzz6 Mymr20 Zzzz28 Ahom27 Zzzz2 Ahom15 Zzzz4 Ahom23",
    "Zzzz185 Dogr60 Zzzz100 Wara83 Zzzz12 Wara Diak7 Zzzz2 Diak Zzzz2 Diak8 Zzzz Diak2 Zzzz",
    "Diak30 Zzzz Diak2 Zzzz2 Diak12 Zzzz9 Diak10 Zzzz70 Nand8 Zzzz2 Nand46 Zzzz2 Nand11",
    "Zzzz27 Zanb72 Zzzz8 Soyo83 Zzzz13 Cans16 Pauc57 Zzzz7 Deva10 Zzzz86 Shrd8 Zzzz88",
    "Sunu34 Zzzz14 Sunu10 Zzzz6 Bhks9 Zzzz Bhks45 Zzzz Bhks14 Zzzz10 Bhks29 Zzzz3 Marc32",
    "Zzzz2 Marc22 Zzzz Marc14 Zzzz73 Gonm7 Zzzz Gonm2 Zzzz Gonm44 Zzzz3 Gonm Zzzz Gonm2",
    "Zzzz Gonm9 Zzzz8 Gonm10 Zzzz6 Gong6 Zzzz Gong2 Zzzz Gong37 Zzzz Gong2 Zzzz Gong6 Zzzz7",
    "Gong10 Zzzz310 Maka25 Zzzz7 Kawi17 Zzzz Kawi41 Zzzz3 Kawi29 Zzzz85 Lisu Zzzz15 Taml50",
    "Zzzz13 Taml Xsux922 Zzzz102 Xsux111 Zzzz Xsux5 Zzzz11 Xsux196 Zzzz2636 Cpmn99 Zzzz13",
    "Egyp1110 Zzzz10 Egyp3995 Zzzz5 Hluw583 Zzzz6841 Gukh58 Zzzz1734 Bamu569 Zzzz7 Mroo31",
    "Zzzz Mroo10 Zzzz4 Mroo2 Tnsa79 Zzzz Tnsa10 Zzzz6 Bass30 Zzzz2 Bass6 Zzzz10 Hmng70",
    "Zzzz10 Hmng10 Zzzz Hmng7 Zzzz Hmng21 Zzzz5 Hmng19 Zzzz432 Krai58 Zzzz198 Medf91",
    "Zzzz101 Plrd75 Zzzz4 Plrd57 Zzzz7 Plrd17 Zzzz64 Tang Nshu Hani2 Kits Zzzz11 Hani7",
    "Zzzz9 Tang6912 Kits470 Zzzz41 Kits Tang31 Zzzz97 Tang115 Zzzz8701 Kana4 Zzzz Kana7",
    "Zzzz Kana2 Zzzz Kana Hira287 Kana3 Zzzz15 Hira Zzzz29 Hira3 Zzzz2 Kana Zzzz14 Kana4",
    "Zzzz8 Nshu396 Zzzz2308 Dupl107 Zzzz5 Dupl13 Zzzz3 Dupl9 Zzzz7 Dupl10 Zzzz2 Dupl4 Zyyy4",
    "Zzzz3932 Zyyy253 Zzzz3 Zyyy436 Zzzz6 Zyyy23 Zzzz15 Zyyy17 Zzzz15 Zinh46 Zzzz2 Zinh23",
    "Zzzz9 Zyyy116 Zzzz60 Zyyy246 Zzzz10 Zyyy39 Zzzz2 Zyyy62 Zinh3 Zyyy17 Zinh8 Zyyy2 Zinh7",
    "Zyyy30 Zinh4 Zyyy61 Zzzz21 Grek70 Zzzz122 Zyyy20 Zzzz12 Zyyy20 Zzzz12 Zyyy87 Zzzz9",
    "Zyyy25 Zzzz135 Zyyy85 Zzzz Zyyy71 Zzzz Zyyy2 Zzzz2 Zyyy Zzzz2 Zyyy2 Zzzz2 Zyyy4 Zzzz",
    "Zyyy12 Zzzz Zyyy Zzzz Zyyy7 Zzzz Zyyy65 Zzzz Zyyy4 Zzzz2 Zyyy8 Zzzz Zyyy7 Zzzz Zyyy28",
    "Zzzz Zyyy4 Zzzz Zyyy5 Zzzz Zyyy Zzzz3 Zyyy7 Zzzz Zyyy340 Zzzz2 Zyyy292 Zzzz2 Zyyy50",
    "Sgnw652 Zzzz15 Sgnw5 Zzzz Sgnw15 Zzzz1104 Latn31 Zzzz6 Latn6 Zzzz213 Glag7 Zzzz Glag17",
    "Zzzz2 Glag7 Zzzz Glag2 Zzzz Glag5 Zzzz5 Cyrl62 Zzzz33 Cyrl Zzzz112 Hmnp45 Zzzz3 Hmnp14",
    "Zzzz2 Hmnp10 Zzzz4 Hmnp2 Zzzz320 Toto31 Zzzz17 Wcho58 Zzzz5 Wcho Zzzz464 Nagm42",
    "Zzzz214 Onao43 Zzzz4 Onao Zzzz480 Ethi7 Zzzz Ethi4 Zzzz Ethi2 Zzzz Ethi15 Zzzz Mend197",
    "Zzzz2 Mend16 Zzzz41 Adlm76 Zzzz4 Adlm10 Zzzz4 Adlm2 Zzzz785 Zyyy68 Zzzz76 Zyyy61",
    "Zzzz194 Arab4 Zzzz Arab27 Zzzz Arab2 Zzzz Arab Zzzz2 Arab Zzzz Arab10 Zzzz Arab4 Zzzz",
    "Arab Zzzz Arab Zzzz6 Arab Zzzz4 Arab Zzzz Arab Zzzz Arab Zzzz Arab3 Zzzz Arab2 Zzzz",
    "Arab Zzzz2 Arab Zzzz Arab Zzzz Arab Zzzz Arab Zzzz Arab Zzzz Arab2 Zzzz Arab Zzzz2",
    "Arab4 Zzzz Arab7 Zzzz Arab4 Zzzz Arab4 Zzzz Arab Zzzz Arab10 Zzzz Arab17 Zzzz5 Arab3",
    "Zzzz Arab5 Zzzz Arab17 Zzzz52 Arab2 Zzzz270 Zyyy44 Zzzz4 Zyyy100 Zzzz12 Zyyy15 Zzzz2",
    "Zyyy15 Zzzz Zyyy15 Zzzz Zyyy37 Zzzz10 Zyyy174 Zzzz56 Zyyy26 Hira Zyyy2 Zzzz13 Zyyy44",
    "Zzzz4 Zyyy9 Zzzz7 Zyyy2 Zzzz14 Zyyy6 Zzzz154 Zyyy985 Zzzz3 Zyyy17 Zzzz3 Zyyy13 Zzzz3",
    "Zyyy218 Zzzz6 Zyyy12 Zzzz4 Zyyy Zzzz15 Zyyy12 Zzzz4 Zyyy56 Zzzz8 Zyyy10 Zzzz6 Zyyy40",
    "Zzzz8 Zyyy30 Zzzz2 Zyyy12 Zzzz4 Zyyy2 Zzzz14 Zyyy9 Zzzz39 Zyyy344 Zzzz8 Zyyy14 Zzzz2",
    "Zyyy13 Zzzz3 Zyyy11 Zzzz3 Zyyy57 Zzzz Zyyy Zzzz4 Zyyy16 Zzzz2 Zyyy12 Zzzz4 Zyyy10",
    "Zzzz7 Zyyy147 Zzzz Zyyy103 Zzzz1029 Hani42720 Zzzz32 Hani4382 Zzzz2 Hani5774 Zzzz2",
    "Hani7473 Zzzz15 Hani622 Zzzz2466 Hani542 Zzzz1506 Hani4939 Zzzz5 Hani8490 Zzzz707463",
    "Zyyy Zzzz30 Zyyy96 Zzzz128 Zinh240 Zzzz196112"]

/-- The runs of characters of one script with their first and last character. -/
def scriptRuns : List (String × Nat × Nat) := decodeRuns 4 scriptText

/-- The names of the scripts, without separators and in lower case, each list beginning with the
code. -/
def scriptNames : List String :=
    ["Adlm/adlm/adlam Aghb/aghb/caucasianalbanian Ahom/ahom Arab/arab/arabic",
    "Armi/armi/imperialaramaic Armn/armn/armenian Avst/avst/avestan Bali/bali/balinese",
    "Bamu/bamu/bamum Bass/bass/bassavah Batk/batk/batak Beng/beng/bengali",
    "Bhks/bhks/bhaiksuki Bopo/bopo/bopomofo Brah/brah/brahmi Brai/brai/braille",
    "Bugi/bugi/buginese Buhd/buhd/buhid Cakm/cakm/chakma Cans/cans/canadianaboriginal",
    "Cari/cari/carian Cham/cham Cher/cher/cherokee Chrs/chrs/chorasmian",
    "Copt/copt/coptic/qaac Cpmn/cpmn/cyprominoan Cprt/cprt/cypriot Cyrl/cyrl/cyrillic",
    "Deva/deva/devanagari Diak/diak/divesakuru Dogr/dogr/dogra Dsrt/dsrt/deseret",
    "Dupl/dupl/duployan Egyp/egyp/egyptianhieroglyphs Elba/elba/elbasan Elym/elym/elymaic",
    "Ethi/ethi/ethiopic Gara/gara/garay Geor/geor/georgian Glag/glag/glagolitic",
    "Gong/gong/gunjalagondi Gonm/gonm/masaramgondi Goth/goth/gothic Gran/gran/grantha",
    "Grek/grek/greek Gujr/gujr/gujarati Gukh/gukh/gurungkhema Guru/guru/gurmukhi",
    "Hang/hang/hangul Hani/hani/han Hano/hano/hanunoo Hatr/hatr/hatran Hebr/hebr/hebrew",
    "Hira/hira/hiragana Hluw/hluw/anatolianhieroglyphs Hmng/hmng/pahawhhmong",
    "Hmnp/hmnp/nyiakengpuachuehmong Hung/hung/oldhungarian Ital/ital/olditalic",
    "Java/java/javanese Kali/kali/kayahli Kana/kana/katakana Kawi/kawi Khar/khar/kharoshthi",
    "Khmr/khmr/khmer Khoj/khoj/khojki Kits/kits/khitansmallscript Knda/knda/kannada",
    "Krai/krai/kiratrai Kthi/kthi/kaithi Lana/lana/taitham Laoo/laoo/lao Latn/latn/latin",
    "Lepc/lepc/lepcha Limb/limb/limbu Lina/lina/lineara Linb/linb/linearb Lisu/lisu",
    "Lyci/lyci/lycian Lydi/lydi/lydian Mahj/mahj/mahajani Maka/maka/makasar",
    "Mand/mand/mandaic Mani/mani/manichaean Marc/marc/marchen Medf/medf/medefaidrin",
    "Mend/mend/mendekikakui Merc/merc/meroiticcursive Mero/mero/meroitichieroglyphs",
    "Mlym/mlym/malayalam Modi/modi Mong/mong/mongolian Mroo/mroo/mro Mtei/mtei/meeteimayek",
    "Mult/mult/multani Mymr/mymr/myanmar Nagm/nagm/nagmundari Nand/nand/nandinagari",
    "Narb/narb/oldnortharabian Nbat/nbat/nabataean Newa/newa Nkoo/nkoo/nko Nshu/nshu/nushu",
    "Ogam/ogam/ogham Olck/olck/olchiki Onao/onao/olonal Orkh/orkh/oldturkic Orya/orya/oriya",
    "Osge/osge/osage Osma/osma/osmanya Ougr/ougr/olduyghur Palm/palm/palmyrene",
    "Pauc/pauc/paucinhau Perm/perm/oldpermic Phag/phag/phagspa",
    "Phli/phli/inscriptionalpahlavi Phlp/phlp/psalterpahlavi Phnx/phnx/phoenician",
    "Plrd/plrd/miao Prti/prti/inscriptionalparthian Rjng/rjng/rejang",
    "Rohg/rohg/hanifirohingya Runr/runr/runic Samr/samr/samaritan Sarb/sarb/oldsoutharabian",
    "Saur/saur/saurashtra Sgnw/sgnw/signwriting Shaw/shaw/shavian Shrd/shrd/sharada",
    "Sidd/sidd/siddham Sind/sind/khudawadi Sinh/sinh/sinhala Sogd/sogd/sogdian",
    "Sogo/sogo/oldsogdian Sora/sora/sorasompeng Soyo/soyo/soyombo Sund/sund/sundanese",
    "Sunu/sunu/sunuwar Sylo/sylo/sylotinagri Syrc/syrc/syriac Tagb/tagb/tagbanwa",
    "Takr/takr/takri Tale/tale/taile Talu/talu/newtailue Taml/taml/tamil Tang/tang/tangut",
    "Tavt/tavt/taiviet Telu/telu/telugu Tfng/tfng/tifinagh Tglg/tglg/tagalog",
    "Thaa/thaa/thaana Thai/thai Tibt/tibt/tibetan Tirh/tirh/tirhuta Tnsa/tnsa/tangsa",
    "Todr/todr/todhri Toto/toto Tutg/tutg/tulutigalari Ugar/ugar/ugaritic Vaii/vaii/vai",
    "Vith/vith/vithkuqi Wara/wara/warangciti Wcho/wcho/wancho Xpeo/xpeo/oldpersian",
    "Xsux/xsux/cuneiform Yezi/yezi/yezidi Yiii/yiii/yi Zanb/zanb/zanabazarsquare",
    "Zinh/zinh/inherited/qaai Zyyy/zyyy/common"]

/-- The ranges of the script with a name. -/
def scriptNamed? (name : String) : Option Ranges := do
  let rows := scriptNames.flatMap fun line => (Text.splitString ' ' line).map (Text.splitString '/')
  let row ← rows.find? fun row => row.tail.contains name
  let code ← row.head?
  return scriptRuns.filterMap fun (c, range) => if c = code then some range else none

end ClassCensus.Unicode
