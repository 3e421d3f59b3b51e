/-!
# Names of characters: aliases

In the form that `Text.CharName` reads; data of Unicode 14.
-/

namespace KeyedAccess.Text

/-- Further names of characters: those of control characters, corrections and abbreviations. -/
def aliasNames : List String := [
  "0:aNUL,0:aNULL,aSOH,1:aSTART OF HEADING,cTEXT,2:aSTX,aEND OF TEXT,3:aETX,aEND OF TRANSMISSION",
  "4:aEOT,aENQ,5:aENQUIRY,aACK,6:aACKNOWLEDGE,aALERT,7:aBEL,aBACKSPACE,8:aBS",
  "aCHARACTER TABULATION,9:aHORIZONTAL TABULATION,9:aHT,9:aTAB,aEND OF LINE,a:aEOL,a:aLF",
  "a:aLINE FEED,a:aNEW LINE,a:aNL,aLINE TABULATION,b:aVERTICAL TABULATION,b:aVT,aFF,c:aFORM FEED",
  "aCARRIAGE RETURN,d:aCR,aLOCKING-SHIFT ONE,e:aSHIFT OUT,e:aSO,aLOCKING-SHIFT ZERO,f:aSHIFT IN",
  "f:aSI,aDATA LINK ESCAPE,10:aDLE,aDC1,11:aDEVICE CONTROL ONE,aDC2,12:aDEVICE CONTROL TWO,aDC3",
  "13:aDEVICE CONTROL THREE,aDC4,14:aDEVICE CONTROL FOUR,aNAK,15:aNEGATIVE ACKNOWLEDGE,aSYN",
  "16:aSYNCHRONOUS IDLE,aEND OF TRANSMISSION BLOCK,17:aETB,aCAN,18:aCANCEL,aEND OF MEDIUM,19:aEOM",
  "aSUB,1a:aSUBSTITUTE,aESC,1b:aESCAPE,aFILE SEPARATOR,1c:aFS,1c:aINFORMATION SEPARATOR FOUR",
  "aGROUP SEPARATOR,1d:aGS,1d:aINFORMATION SEPARATOR THREE,cTWO,1e:aRECORD SEPARATOR,1e:aRS",
  "aINFORMATION SEPARATOR ONE,1f:aUNIT SEPARATOR,1f:aUS,aSP,7f:aDEL,7f:aDELETE,aPAD",
  "80:aPADDING CHARACTER,aHIGH OCTET PRESET,81:aHOP,aBPH,82:aBREAK PERMITTED HERE,aNBH",
  "83:aNO BREAK HERE,aIND,84:aINDEX,aNEL,85:aNEXT LINE,aSSA,86:aSTART OF SELECTED AREA",
  "aEND OF SELECTED AREA,87:aESA,aCHARACTER TABULATION SET,88:aHORIZONTAL TABULATION SET,88:aHTS",
  "aCHARACTER TABULATION WITH JUSTIFICATION,89:aHORIZONTAL TABULATION WITH JUSTIFICATION,89:aHTJ",
  "aLINE TABULATION SET,8a:aVERTICAL TABULATION SET,8a:aVTS,aPARTIAL LINE DOWN,8b:cFORWARD",
  "8b:aPLD,aPARTIAL LINE BACKWARD,8c:cUP,8c:aPLU,aREVERSE INDEX,8d:bLINE FEED,8d:aRI",
  "aSINGLE SHIFT TWO,8e:aSINGLE-SHIFT-2,8e:aSS2,aSINGLE SHIFT THREE,8f:aSINGLE-SHIFT-3,8f:aSS3",
  "aDCS,90:aDEVICE CONTROL STRING,aPRIVATE USE ONE,91:bUSE-1,91:aPU1,aPRIVATE USE TWO,92:bUSE-2",
  "92:aPU2,aSET TRANSMIT STATE,93:aSTS,aCANCEL CHARACTER,94:aCCH,aMESSAGE WAITING,95:aMW,aSPA",
  "96:aSTART OF GUARDED AREA,96:cPROTECTED AREA,aEND OF GUARDED AREA,97:cPROTECTED AREA,97:aEPA",
  "aSOS,98:aSTART OF STRING,aSGC,99:aSINGLE GRAPHIC CHARACTER INTRODUCER,aSCI",
  "9a:aSINGLE CHARACTER INTRODUCER,aCONTROL SEQUENCE INTRODUCER,9b:aCSI,aST,9c:aSTRING TERMINATOR",
  "aOPERATING SYSTEM COMMAND,9d:aOSC,aPM,9e:aPRIVACY MESSAGE,aAPC,9f:aAPPLICATION PROGRAM COMMAND",
  "aNBSP,ad:aSHY,1a2:aLATIN CAPITAL LETTER GHA,bSMALL LETTER GHA,34f:aCGJ,61c:aALM",
  "709:aSYRIAC SUBLINEAR COLON SKEWED LEFT,cde:aKANNADA LETTER LLLA,e9d:aLAO LETTER FO FON",
  "e9f:dFAY,ea3:cRO,ea5:cLO,fd0:aTIBETAN MARK BKA- SHOG GI MGO RGYAN",
  "11ec:aHANGUL JONGSEONG YESIEUNG-KIYEOK,cYESIEUNG-SSANGKIYEOK,cSSANGYESIEUNG,cYESIEUNG-KHIEUKH",
  "180b:aFVS1,aFVS2,aFVS3,aMVS,aFVS4,200b:aZWSP,aZWNJ,aZWJ,aLRM,aRLM,202a:aLRE,aRLE,aPDF,aLRO",
  "aRLO,aNNBSP,205f:aMMSP,aWJ,2066:aLRI,aRLI,aFSI,aPDI,2118:aWEIERSTRASS ELLIPTIC FUNCTION",
  "2448:aMICR ON US SYMBOL,bDASH SYMBOL",
  "2b7a:aLEFTWARDS TRIANGLE-HEADED ARROW WITH DOUBLE VERTICAL STROKE",
  "2b7c:aRIGHTWARDS TRIANGLE-HEADED ARROW WITH DOUBLE VERTICAL STROKE",
  "a015:aYI SYLLABLE ITERATION MARK,aa6e:aMYANMAR LETTER KHAMTI LLA,fe00:aVS1,aVS2,aVS3,aVS4,aVS5",
  "aVS6,aVS7,aVS8,aVS9,aVS10,aVS11,aVS12,aVS13,aVS14,aVS15,aVS16",
  "fe18:aPRESENTATION FORM FOR VERTICAL RIGHT WHITE LENTICULAR BRACKET,feff:aBOM",
  "feff:aBYTE ORDER MARK,feff:aZWNBSP,122d4:aCUNEIFORM SIGN NU11 TENU,dOVER NU11 BUR OVER BUR",
  "16e56:aMEDEFAIDRIN CAPITAL LETTER H,dNG,16e76:bSMALL LETTER H,dNG,1b001:aHENTAIGANA LETTER E-1",
  "1d0c5:aBYZANTINE MUSICAL SYMBOL FTHORA SKLIRON CHROMA VASIS,e0100:aVS17,aVS18,aVS19,aVS20",
  "aVS21,aVS22,aVS23,aVS24,aVS25,aVS26,aVS27,aVS28,aVS29,aVS30,aVS31,aVS32,aVS33,aVS34,aVS35",
  "aVS36,aVS37,aVS38,aVS39,aVS40,aVS41,aVS42,aVS43,aVS44,aVS45,aVS46,aVS47,aVS48,aVS49,aVS50",
  "aVS51,aVS52,aVS53,aVS54,aVS55,aVS56,aVS57,aVS58,aVS59,aVS60,aVS61,aVS62,aVS63,aVS64,aVS65",
  "aVS66,aVS67,aVS68,aVS69,aVS70,aVS71,aVS72,aVS73,aVS74,aVS75,aVS76,aVS77,aVS78,aVS79,aVS80",
  "aVS81,aVS82,aVS83,aVS84,aVS85,aVS86,aVS87,aVS88,aVS89,aVS90,aVS91,aVS92,aVS93,aVS94,aVS95",
  "aVS96,aVS97,aVS98,aVS99,aVS100,aVS101,aVS102,aVS103,aVS104,aVS105,aVS106,aVS107,aVS108,aVS109",
  "aVS110,aVS111,aVS112,aVS113,aVS114,aVS115,aVS116,aVS117,aVS118,aVS119,aVS120,aVS121,aVS122",
  "aVS123,aVS124,aVS125,aVS126,aVS127,aVS128,aVS129,aVS130,aVS131,aVS132,aVS133,aVS134,aVS135",
  "aVS136,aVS137,aVS138,aVS139,aVS140,aVS141,aVS142,aVS143,aVS144,aVS145,aVS146,aVS147,aVS148",
  "aVS149,aVS150,aVS151,aVS152,aVS153,aVS154,aVS155,aVS156,aVS157,aVS158,aVS159,aVS160,aVS161",
  "aVS162,aVS163,aVS164,aVS165,aVS166,aVS167,aVS168,aVS169,aVS170,aVS171,aVS172,aVS173,aVS174",
  "aVS175,aVS176,aVS177,aVS178,aVS179,aVS180,aVS181,aVS182,aVS183,aVS184,aVS185,aVS186,aVS187",
  "aVS188,aVS189,aVS190,aVS191,aVS192,aVS193,aVS194,aVS195,aVS196,aVS197,aVS198,aVS199,aVS200",
  "aVS201,aVS202,aVS203,aVS204,aVS205,aVS206,aVS207,aVS208,aVS209,aVS210,aVS211,aVS212,aVS213",
  "aVS214,aVS215,aVS216,aVS217,aVS218,aVS219,aVS220,aVS221,aVS222,aVS223,aVS224,aVS225,aVS226",
  "aVS227,aVS228,aVS229,aVS230,aVS231,aVS232,aVS233,aVS234,aVS235,aVS236,aVS237,aVS238,aVS239",
  "aVS240,aVS241,aVS242,aVS243,aVS244,aVS245,aVS246,aVS247,aVS248,aVS249,aVS250,aVS251,aVS252",
  "aVS253,aVS254,aVS255,aVS256"]

end KeyedAccess.Text
