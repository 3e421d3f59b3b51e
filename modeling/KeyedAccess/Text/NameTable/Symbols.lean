/-!
# Names of characters: symbols

In the form that `Text.CharName` reads; data of Unicode 14.
-/

namespace KeyedAccess.Text

/-- Names from general punctuation to the enclosed letters. -/
def punctuationNames : List String := [
  "2000:aEN QUAD,aEM QUAD,aEN SPACE,aEM SPACE,aTHREE-PER-EM SPACE,aFOUR-PER-EM SPACE",
  "aSIX-PER-EM SPACE,aFIGURE SPACE,aPUNCTUATION SPACE,aTHIN SPACE,aHAIR SPACE,aZERO WIDTH SPACE",
  "cNON-JOINER,cJOINER,aLEFT-TO-RIGHT MARK,aRIGHT-TO-LEFT MARK,aHYPHEN,aNON-BREAKING HYPHEN",
  "aFIGURE DASH,aEN DASH,aEM DASH,aHORIZONTAL BAR,aDOUBLE VERTICAL LINE,bLOW LINE",
  "aLEFT SINGLE QUOTATION MARK,aRIGHT SINGLE QUOTATION MARK,aSINGLE LOW-9 QUOTATION MARK",
  "bHIGH-REVERSED-9 QUOTATION MARK,aLEFT DOUBLE QUOTATION MARK,aRIGHT DOUBLE QUOTATION MARK",
  "aDOUBLE LOW-9 QUOTATION MARK,bHIGH-REVERSED-9 QUOTATION MARK,aDAGGER,aDOUBLE DAGGER,aBULLET",
  "aTRIANGULAR BULLET,aONE DOT LEADER,aTWO DOT LEADER,aHORIZONTAL ELLIPSIS,aHYPHENATION POINT",
  "aLINE SEPARATOR,aPARAGRAPH SEPARATOR,aLEFT-TO-RIGHT EMBEDDING,aRIGHT-TO-LEFT EMBEDDING",
  "aPOP DIRECTIONAL FORMATTING,aLEFT-TO-RIGHT OVERRIDE,aRIGHT-TO-LEFT OVERRIDE",
  "aNARROW NO-BREAK SPACE,aPER MILLE SIGN,bTEN THOUSAND SIGN,aPRIME,aDOUBLE PRIME,aTRIPLE PRIME",
  "aREVERSED PRIME,bDOUBLE PRIME,bTRIPLE PRIME,aCARET,aSINGLE LEFT-POINTING ANGLE QUOTATION MARK",
  "bRIGHT-POINTING ANGLE QUOTATION MARK,aREFERENCE MARK,aDOUBLE EXCLAMATION MARK,aINTERROBANG",
  "aOVERLINE,aUNDERTIE,aCHARACTER TIE,aCARET INSERTION POINT,aASTERISM,aHYPHEN BULLET",
  "aFRACTION SLASH,aLEFT SQUARE BRACKET WITH QUILL,aRIGHT SQUARE BRACKET WITH QUILL",
  "aDOUBLE QUESTION MARK,aQUESTION EXCLAMATION MARK,aEXCLAMATION QUESTION MARK,aTIRONIAN SIGN ET",
  "aREVERSED PILCROW SIGN,aBLACK LEFTWARDS BULLET,bRIGHTWARDS BULLET,aLOW ASTERISK",
  "aREVERSED SEMICOLON,aCLOSE UP,aTWO ASTERISKS ALIGNED VERTICALLY,aCOMMERCIAL MINUS SIGN",
  "aSWUNG DASH,aINVERTED UNDERTIE,aFLOWER PUNCTUATION MARK,aTHREE DOT PUNCTUATION",
  "aQUADRUPLE PRIME,aFOUR DOT PUNCTUATION,aFIVE DOT PUNCTUATION,aTWO DOT PUNCTUATION",
  "aFOUR DOT MARK,aDOTTED CROSS,aTRICOLON,aVERTICAL FOUR DOTS,aMEDIUM MATHEMATICAL SPACE",
  "aWORD JOINER,aFUNCTION APPLICATION,aINVISIBLE TIMES,bSEPARATOR,bPLUS",
  "2066:aLEFT-TO-RIGHT ISOLATE,aRIGHT-TO-LEFT ISOLATE,aFIRST STRONG ISOLATE",
  "aPOP DIRECTIONAL ISOLATE,aINHIBIT SYMMETRIC SWAPPING,aACTIVATE SYMMETRIC SWAPPING",
  "aINHIBIT ARABIC FORM SHAPING,aACTIVATE ARABIC FORM SHAPING,aNATIONAL DIGIT SHAPES",
  "aNOMINAL DIGIT SHAPES,aSUPERSCRIPT ZERO,bLATIN SMALL LETTER I,2074:bFOUR,bFIVE,bSIX,bSEVEN",
  "bEIGHT,bNINE,bPLUS SIGN,bMINUS,bEQUALS SIGN,bLEFT PARENTHESIS,bRIGHT PARENTHESIS",
  "bLATIN SMALL LETTER N,aSUBSCRIPT ZERO,bONE,bTWO,bTHREE,bFOUR,bFIVE,bSIX,bSEVEN,bEIGHT,bNINE",
  "bPLUS SIGN,bMINUS,bEQUALS SIGN,bLEFT PARENTHESIS,bRIGHT PARENTHESIS",
  "2090:aLATIN SUBSCRIPT SMALL LETTER A,eE,eO,eX,eSCHWA,eH,eK,eL,eM,eN,eP,eS,eT",
  "20a0:aEURO-CURRENCY SIGN,aCOLON SIGN,aCRUZEIRO SIGN,aFRENCH FRANC SIGN,aLIRA SIGN,aMILL SIGN",
  "aNAIRA SIGN,aPESETA SIGN,aRUPEE SIGN,aWON SIGN,aNEW SHEQEL SIGN,aDONG SIGN,aEURO SIGN",
  "aKIP SIGN,aTUGRIK SIGN,aDRACHMA SIGN,aGERMAN PENNY SIGN,aPESO SIGN,aGUARANI SIGN,aAUSTRAL SIGN",
  "aHRYVNIA SIGN,aCEDI SIGN,aLIVRE TOURNOIS SIGN,aSPESMILO SIGN,aTENGE SIGN,aINDIAN RUPEE SIGN",
  "aTURKISH LIRA SIGN,aNORDIC MARK SIGN,aMANAT SIGN,aRUBLE SIGN,aLARI SIGN,aBITCOIN SIGN",
  "aSOM SIGN,20d0:aCOMBINING LEFT HARPOON ABOVE,bRIGHT HARPOON ABOVE,bLONG VERTICAL LINE OVERLAY",
  "bSHORT VERTICAL LINE OVERLAY,bANTICLOCKWISE ARROW ABOVE,bCLOCKWISE ARROW ABOVE",
  "bLEFT ARROW ABOVE,bRIGHT ARROW ABOVE,bRING OVERLAY,bCLOCKWISE RING OVERLAY",
  "bANTICLOCKWISE RING OVERLAY,bTHREE DOTS ABOVE,bFOUR DOTS ABOVE,bENCLOSING CIRCLE,cSQUARE",
  "cDIAMOND,cCIRCLE BACKSLASH,bLEFT RIGHT ARROW ABOVE,bENCLOSING SCREEN,cKEYCAP",
  "cUPWARD POINTING TRIANGLE,bREVERSE SOLIDUS OVERLAY,bDOUBLE VERTICAL STROKE OVERLAY",
  "bANNUITY SYMBOL,bTRIPLE UNDERDOT,bWIDE BRIDGE ABOVE,bLEFTWARDS ARROW OVERLAY",
  "bLONG DOUBLE SOLIDUS OVERLAY,bRIGHTWARDS HARPOON WITH BARB DOWNWARDS",
  "bLEFTWARDS HARPOON WITH BARB DOWNWARDS,bLEFT ARROW BELOW,bRIGHT ARROW BELOW,bASTERISK ABOVE",
  "2100:aACCOUNT OF,aADDRESSED TO THE SUBJECT,aDOUBLE-STRUCK CAPITAL C,aDEGREE CELSIUS",
  "aCENTRE LINE SYMBOL,aCARE OF,aCADA UNA,aEULER CONSTANT,aSCRUPLE,aDEGREE FAHRENHEIT",
  "aSCRIPT SMALL G,bCAPITAL H,aBLACK-LETTER CAPITAL H,aDOUBLE-STRUCK CAPITAL H,aPLANCK CONSTANT",
  "cOVER TWO PI,aSCRIPT CAPITAL I,aBLACK-LETTER CAPITAL I,aSCRIPT CAPITAL L,bSMALL L",
  "aL B BAR SYMBOL,aDOUBLE-STRUCK CAPITAL N,aNUMERO SIGN,aSOUND RECORDING COPYRIGHT",
  "aSCRIPT CAPITAL P,aDOUBLE-STRUCK CAPITAL P,cQ,aSCRIPT CAPITAL R,aBLACK-LETTER CAPITAL R",
  "aDOUBLE-STRUCK CAPITAL R,aPRESCRIPTION TAKE,aRESPONSE,aSERVICE MARK,aTELEPHONE SIGN",
  "aTRADE MARK SIGN,aVERSICLE,aDOUBLE-STRUCK CAPITAL Z,aOUNCE SIGN,aOHM SIGN,aINVERTED OHM SIGN",
  "aBLACK-LETTER CAPITAL Z,aTURNED GREEK SMALL LETTER IOTA,aKELVIN SIGN,aANGSTROM SIGN",
  "aSCRIPT CAPITAL B,aBLACK-LETTER CAPITAL C,aESTIMATED SYMBOL,aSCRIPT SMALL E,bCAPITAL E,cF",
  "aTURNED CAPITAL F,aSCRIPT CAPITAL M,bSMALL O,aALEF SYMBOL,aBET SYMBOL,aGIMEL SYMBOL",
  "aDALET SYMBOL,aINFORMATION SOURCE,aROTATED CAPITAL Q,aFACSIMILE SIGN,aDOUBLE-STRUCK SMALL PI",
  "cGAMMA,bCAPITAL GAMMA,cPI,bN-ARY SUMMATION,aTURNED SANS-SERIF CAPITAL G,dL",
  "aREVERSED SANS-SERIF CAPITAL L,aTURNED SANS-SERIF CAPITAL Y,aDOUBLE-STRUCK ITALIC CAPITAL D",
  "cSMALL D,dE,dI,dJ,aPROPERTY LINE,aTURNED AMPERSAND,aPER SIGN,aAKTIESELSKAB,aTURNED SMALL F",
  "aSYMBOL FOR SAMARITAN SOURCE,aVULGAR FRACTION ONE SEVENTH,dNINTH,dTENTH,dTHIRD,cTWO THIRDS",
  "cONE FIFTH,cTWO FIFTHS,cTHREE FIFTHS,cFOUR FIFTHS,cONE SIXTH,cFIVE SIXTHS,cONE EIGHTH",
  "cTHREE EIGHTHS,cFIVE EIGHTHS,cSEVEN EIGHTHS,aFRACTION NUMERATOR ONE,aROMAN NUMERAL ONE,cTWO",
  "cTHREE,cFOUR,cFIVE,cSIX,cSEVEN,cEIGHT,cNINE,cTEN,cELEVEN,cTWELVE,cFIFTY,cONE HUNDRED",
  "cFIVE HUNDRED,cONE THOUSAND,aSMALL ROMAN NUMERAL ONE,dTWO,dTHREE,dFOUR,dFIVE,dSIX,dSEVEN",
  "dEIGHT,dNINE,dTEN,dELEVEN,dTWELVE,dFIFTY,dONE HUNDRED,dFIVE HUNDRED,dONE THOUSAND",
  "aROMAN NUMERAL ONE THOUSAND C D,cFIVE THOUSAND,cTEN THOUSAND,cREVERSED ONE HUNDRED",
  "aLATIN SMALL LETTER REVERSED C,aROMAN NUMERAL SIX LATE FORM,cFIFTY EARLY FORM,dTHOUSAND",
  "cONE HUNDRED THOUSAND,aVULGAR FRACTION ZERO THIRDS,aTURNED DIGIT TWO,cTHREE",
  "2190:aLEFTWARDS ARROW,aUPWARDS ARROW,aRIGHTWARDS ARROW,aDOWNWARDS ARROW,aLEFT RIGHT ARROW",
  "aUP DOWN ARROW,aNORTH WEST ARROW,bEAST ARROW,aSOUTH EAST ARROW,bWEST ARROW",
  "aLEFTWARDS ARROW WITH STROKE,aRIGHTWARDS ARROW WITH STROKE,aLEFTWARDS WAVE ARROW",
  "aRIGHTWARDS WAVE ARROW,aLEFTWARDS TWO HEADED ARROW,aUPWARDS TWO HEADED ARROW",
  "aRIGHTWARDS TWO HEADED ARROW,aDOWNWARDS TWO HEADED ARROW,aLEFTWARDS ARROW WITH TAIL",
  "aRIGHTWARDS ARROW WITH TAIL,aLEFTWARDS ARROW FROM BAR,aUPWARDS ARROW FROM BAR",
  "aRIGHTWARDS ARROW FROM BAR,aDOWNWARDS ARROW FROM BAR,aUP DOWN ARROW WITH BASE",
  "aLEFTWARDS ARROW WITH HOOK,aRIGHTWARDS ARROW WITH HOOK,aLEFTWARDS ARROW WITH LOOP",
  "aRIGHTWARDS ARROW WITH LOOP,aLEFT RIGHT WAVE ARROW,cARROW WITH STROKE,aDOWNWARDS ZIGZAG ARROW",
  "aUPWARDS ARROW WITH TIP LEFTWARDS,eRIGHTWARDS,aDOWNWARDS ARROW WITH TIP LEFTWARDS,eRIGHTWARDS",
  "aRIGHTWARDS ARROW WITH CORNER DOWNWARDS,aDOWNWARDS ARROW WITH CORNER LEFTWARDS",
  "aANTICLOCKWISE TOP SEMICIRCLE ARROW,aCLOCKWISE TOP SEMICIRCLE ARROW",
  "aNORTH WEST ARROW TO LONG BAR,aLEFTWARDS ARROW TO BAR OVER RIGHTWARDS ARROW TO BAR",
  "aANTICLOCKWISE OPEN CIRCLE ARROW,aCLOCKWISE OPEN CIRCLE ARROW",
  "aLEFTWARDS HARPOON WITH BARB UPWARDS,eDOWNWARDS,aUPWARDS HARPOON WITH BARB RIGHTWARDS",
  "eLEFTWARDS,aRIGHTWARDS HARPOON WITH BARB UPWARDS,eDOWNWARDS",
  "aDOWNWARDS HARPOON WITH BARB RIGHTWARDS,eLEFTWARDS,aRIGHTWARDS ARROW OVER LEFTWARDS ARROW",
  "aUPWARDS ARROW LEFTWARDS OF DOWNWARDS ARROW,aLEFTWARDS ARROW OVER RIGHTWARDS ARROW",
  "bPAIRED ARROWS,aUPWARDS PAIRED ARROWS,aRIGHTWARDS PAIRED ARROWS,aDOWNWARDS PAIRED ARROWS",
  "aLEFTWARDS HARPOON OVER RIGHTWARDS HARPOON,aRIGHTWARDS HARPOON OVER LEFTWARDS HARPOON",
  "aLEFTWARDS DOUBLE ARROW WITH STROKE,aLEFT RIGHT DOUBLE ARROW WITH STROKE",
  "aRIGHTWARDS DOUBLE ARROW WITH STROKE,aLEFTWARDS DOUBLE ARROW,aUPWARDS DOUBLE ARROW",
  "aRIGHTWARDS DOUBLE ARROW,aDOWNWARDS DOUBLE ARROW,aLEFT RIGHT DOUBLE ARROW",
  "aUP DOWN DOUBLE ARROW,aNORTH WEST DOUBLE ARROW,bEAST DOUBLE ARROW,aSOUTH EAST DOUBLE ARROW",
  "bWEST DOUBLE ARROW,aLEFTWARDS TRIPLE ARROW,aRIGHTWARDS TRIPLE ARROW,aLEFTWARDS SQUIGGLE ARROW",
  "aRIGHTWARDS SQUIGGLE ARROW,aUPWARDS ARROW WITH DOUBLE STROKE",
  "aDOWNWARDS ARROW WITH DOUBLE STROKE,aLEFTWARDS DASHED ARROW,aUPWARDS DASHED ARROW",
  "aRIGHTWARDS DASHED ARROW,aDOWNWARDS DASHED ARROW,aLEFTWARDS ARROW TO BAR",
  "aRIGHTWARDS ARROW TO BAR,aLEFTWARDS WHITE ARROW,aUPWARDS WHITE ARROW,aRIGHTWARDS WHITE ARROW",
  "aDOWNWARDS WHITE ARROW,aUPWARDS WHITE ARROW FROM BAR,dON PEDESTAL,fWITH HORIZONTAL BAR",
  "gVERTICAL BAR,cDOUBLE ARROW,eON PEDESTAL,aRIGHTWARDS WHITE ARROW FROM WALL",
  "aNORTH WEST ARROW TO CORNER,aSOUTH EAST ARROW TO CORNER,aUP DOWN WHITE ARROW",
  "aRIGHT ARROW WITH SMALL CIRCLE,aDOWNWARDS ARROW LEFTWARDS OF UPWARDS ARROW",
  "aTHREE RIGHTWARDS ARROWS,aLEFTWARDS ARROW WITH VERTICAL STROKE",
  "aRIGHTWARDS ARROW WITH VERTICAL STROKE,aLEFT RIGHT ARROW WITH VERTICAL STROKE",
  "aLEFTWARDS ARROW WITH DOUBLE VERTICAL STROKE,aRIGHTWARDS ARROW WITH DOUBLE VERTICAL STROKE",
  "aLEFT RIGHT ARROW WITH DOUBLE VERTICAL STROKE,aLEFTWARDS OPEN-HEADED ARROW",
  "aRIGHTWARDS OPEN-HEADED ARROW,aLEFT RIGHT OPEN-HEADED ARROW,aFOR ALL,aCOMPLEMENT",
  "aPARTIAL DIFFERENTIAL,aTHERE EXISTS,bDOES NOT EXIST,aEMPTY SET,aINCREMENT,aNABLA,aELEMENT OF",
  "aNOT AN ELEMENT OF,aSMALL ELEMENT OF,aCONTAINS AS MEMBER,aDOES NOT CONTAIN AS MEMBER",
  "aSMALL CONTAINS AS MEMBER,aEND OF PROOF,aN-ARY PRODUCT,bCOPRODUCT,bSUMMATION,aMINUS SIGN",
  "aMINUS-OR-PLUS SIGN,aDOT PLUS,aDIVISION SLASH,aSET MINUS,aASTERISK OPERATOR,aRING OPERATOR",
  "aBULLET OPERATOR,aSQUARE ROOT,aCUBE ROOT,aFOURTH ROOT,aPROPORTIONAL TO,aINFINITY,aRIGHT ANGLE",
  "aANGLE,aMEASURED ANGLE,aSPHERICAL ANGLE,aDIVIDES,aDOES NOT DIVIDE,aPARALLEL TO",
  "aNOT PARALLEL TO,aLOGICAL AND,bOR,aINTERSECTION,aUNION,aINTEGRAL,aDOUBLE INTEGRAL",
  "aTRIPLE INTEGRAL,aCONTOUR INTEGRAL,aSURFACE INTEGRAL,aVOLUME INTEGRAL,aCLOCKWISE INTEGRAL",
  "bCONTOUR INTEGRAL,aANTICLOCKWISE CONTOUR INTEGRAL,aTHEREFORE,aBECAUSE,aRATIO,aPROPORTION",
  "aDOT MINUS,aEXCESS,aGEOMETRIC PROPORTION,aHOMOTHETIC,aTILDE OPERATOR,aREVERSED TILDE",
  "aINVERTED LAZY S,aSINE WAVE,aWREATH PRODUCT,aNOT TILDE,aMINUS TILDE,aASYMPTOTICALLY EQUAL TO",
  "aNOT ASYMPTOTICALLY EQUAL TO,aAPPROXIMATELY EQUAL TO,bBUT NOT ACTUALLY EQUAL TO",
  "aNEITHER APPROXIMATELY NOR ACTUALLY EQUAL TO,aALMOST EQUAL TO,aNOT ALMOST EQUAL TO",
  "aALMOST EQUAL OR EQUAL TO,aTRIPLE TILDE,aALL EQUAL TO,aEQUIVALENT TO",
  "aGEOMETRICALLY EQUIVALENT TO,aDIFFERENCE BETWEEN,aAPPROACHES THE LIMIT,aGEOMETRICALLY EQUAL TO",
  "aAPPROXIMATELY EQUAL TO OR THE IMAGE OF,aIMAGE OF OR APPROXIMATELY EQUAL TO,aCOLON EQUALS",
  "aEQUALS COLON,aRING IN EQUAL TO,bEQUAL TO,aCORRESPONDS TO,aESTIMATES,aEQUIANGULAR TO",
  "aSTAR EQUALS,aDELTA EQUAL TO,aEQUAL TO BY DEFINITION,aMEASURED BY,aQUESTIONED EQUAL TO",
  "aNOT EQUAL TO,aIDENTICAL TO,aNOT IDENTICAL TO,aSTRICTLY EQUIVALENT TO,aLESS-THAN OR EQUAL TO",
  "aGREATER-THAN OR EQUAL TO,aLESS-THAN OVER EQUAL TO,aGREATER-THAN OVER EQUAL TO",
  "aLESS-THAN BUT NOT EQUAL TO,aGREATER-THAN BUT NOT EQUAL TO,aMUCH LESS-THAN,bGREATER-THAN",
  "aBETWEEN,aNOT EQUIVALENT TO,bLESS-THAN,bGREATER-THAN,aNEITHER LESS-THAN NOR EQUAL TO",
  "bGREATER-THAN NOR EQUAL TO,aLESS-THAN OR EQUIVALENT TO,aGREATER-THAN OR EQUIVALENT TO",
  "aNEITHER LESS-THAN NOR EQUIVALENT TO,bGREATER-THAN NOR EQUIVALENT TO",
  "aLESS-THAN OR GREATER-THAN,aGREATER-THAN OR LESS-THAN,aNEITHER LESS-THAN NOR GREATER-THAN",
  "bGREATER-THAN NOR LESS-THAN,aPRECEDES,aSUCCEEDS,aPRECEDES OR EQUAL TO,aSUCCEEDS OR EQUAL TO",
  "aPRECEDES OR EQUIVALENT TO,aSUCCEEDS OR EQUIVALENT TO,aDOES NOT PRECEDE,cSUCCEED,aSUBSET OF",
  "aSUPERSET OF,aNOT A SUBSET OF,cSUPERSET OF,aSUBSET OF OR EQUAL TO,aSUPERSET OF OR EQUAL TO",
  "aNEITHER A SUBSET OF NOR EQUAL TO,cSUPERSET OF NOR EQUAL TO,aSUBSET OF WITH NOT EQUAL TO",
  "aSUPERSET OF WITH NOT EQUAL TO,aMULTISET,bMULTIPLICATION,bUNION,aSQUARE IMAGE OF,bORIGINAL OF",
  "bIMAGE OF OR EQUAL TO,bORIGINAL OF OR EQUAL TO,bCAP,bCUP,aCIRCLED PLUS,bMINUS,bTIMES",
  "bDIVISION SLASH,bDOT OPERATOR,bRING OPERATOR,bASTERISK OPERATOR,bEQUALS,bDASH,aSQUARED PLUS",
  "bMINUS,bTIMES,bDOT OPERATOR,aRIGHT TACK,aLEFT TACK,aDOWN TACK,aUP TACK,aASSERTION,aMODELS",
  "aTRUE,aFORCES,aTRIPLE VERTICAL BAR RIGHT TURNSTILE,aDOUBLE VERTICAL BAR DOUBLE RIGHT TURNSTILE",
  "aDOES NOT PROVE,aNOT TRUE,aDOES NOT FORCE,aNEGATED DOUBLE VERTICAL BAR DOUBLE RIGHT TURNSTILE",
  "aPRECEDES UNDER RELATION,aSUCCEEDS UNDER RELATION,aNORMAL SUBGROUP OF",
  "aCONTAINS AS NORMAL SUBGROUP,aNORMAL SUBGROUP OF OR EQUAL TO",
  "aCONTAINS AS NORMAL SUBGROUP OR EQUAL TO,aORIGINAL OF,aIMAGE OF,aMULTIMAP",
  "aHERMITIAN CONJUGATE MATRIX,aINTERCALATE,aXOR,aNAND,aNOR,aRIGHT ANGLE WITH ARC,bTRIANGLE",
  "aN-ARY LOGICAL AND,cOR,bINTERSECTION,bUNION,aDIAMOND OPERATOR,aDOT OPERATOR,aSTAR OPERATOR",
  "aDIVISION TIMES,aBOWTIE,aLEFT NORMAL FACTOR SEMIDIRECT PRODUCT",
  "aRIGHT NORMAL FACTOR SEMIDIRECT PRODUCT,aLEFT SEMIDIRECT PRODUCT,aRIGHT SEMIDIRECT PRODUCT",
  "aREVERSED TILDE EQUALS,aCURLY LOGICAL OR,cAND,aDOUBLE SUBSET,bSUPERSET,bINTERSECTION,bUNION",
  "aPITCHFORK,aEQUAL AND PARALLEL TO,aLESS-THAN WITH DOT,aGREATER-THAN WITH DOT",
  "aVERY MUCH LESS-THAN,cGREATER-THAN,aLESS-THAN EQUAL TO OR GREATER-THAN",
  "aGREATER-THAN EQUAL TO OR LESS-THAN,aEQUAL TO OR LESS-THAN,dGREATER-THAN,dPRECEDES,dSUCCEEDS",
  "aDOES NOT PRECEDE OR EQUAL,cSUCCEED OR EQUAL,aNOT SQUARE IMAGE OF OR EQUAL TO",
  "cORIGINAL OF OR EQUAL TO,aSQUARE IMAGE OF OR NOT EQUAL TO,bORIGINAL OF OR NOT EQUAL TO",
  "aLESS-THAN BUT NOT EQUIVALENT TO,aGREATER-THAN BUT NOT EQUIVALENT TO",
  "aPRECEDES BUT NOT EQUIVALENT TO,aSUCCEEDS BUT NOT EQUIVALENT TO,aNOT NORMAL SUBGROUP OF",
  "aDOES NOT CONTAIN AS NORMAL SUBGROUP,aNOT NORMAL SUBGROUP OF OR EQUAL TO",
  "aDOES NOT CONTAIN AS NORMAL SUBGROUP OR EQUAL,aVERTICAL ELLIPSIS,aMIDLINE HORIZONTAL ELLIPSIS",
  "aUP RIGHT DIAGONAL ELLIPSIS,aDOWN RIGHT DIAGONAL ELLIPSIS",
  "aELEMENT OF WITH LONG HORIZONTAL STROKE,dVERTICAL BAR AT END OF HORIZONTAL STROKE",
  "aSMALL ELEMENT OF WITH VERTICAL BAR AT END OF HORIZONTAL STROKE,aELEMENT OF WITH DOT ABOVE",
  "dOVERBAR,aSMALL ELEMENT OF WITH OVERBAR,aELEMENT OF WITH UNDERBAR,dTWO HORIZONTAL STROKES",
  "aCONTAINS WITH LONG HORIZONTAL STROKE,cVERTICAL BAR AT END OF HORIZONTAL STROKE",
  "aSMALL CONTAINS WITH VERTICAL BAR AT END OF HORIZONTAL STROKE,aCONTAINS WITH OVERBAR",
  "aSMALL CONTAINS WITH OVERBAR,aZ NOTATION BAG MEMBERSHIP,aDIAMETER SIGN,aELECTRIC ARROW,aHOUSE",
  "aUP ARROWHEAD,aDOWN ARROWHEAD,aPROJECTIVE,aPERSPECTIVE,aWAVY LINE,aLEFT CEILING,aRIGHT CEILING",
  "aLEFT FLOOR,aRIGHT FLOOR,aBOTTOM RIGHT CROP,bLEFT CROP,aTOP RIGHT CROP,bLEFT CROP",
  "aREVERSED NOT SIGN,aSQUARE LOZENGE,aARC,aSEGMENT,aSECTOR,aTELEPHONE RECORDER",
  "aPOSITION INDICATOR,aVIEWDATA SQUARE,aPLACE OF INTEREST SIGN,aTURNED NOT SIGN,aWATCH",
  "aHOURGLASS,aTOP LEFT CORNER,bRIGHT CORNER,aBOTTOM LEFT CORNER,bRIGHT CORNER,aTOP HALF INTEGRAL",
  "aBOTTOM HALF INTEGRAL,aFROWN,aSMILE,aUP ARROWHEAD BETWEEN TWO HORIZONTAL BARS,aOPTION KEY",
  "aERASE TO THE RIGHT,aX IN A RECTANGLE BOX,aKEYBOARD,aLEFT-POINTING ANGLE BRACKET",
  "aRIGHT-POINTING ANGLE BRACKET,aERASE TO THE LEFT,aBENZENE RING,aCYLINDRICITY",
  "aALL AROUND-PROFILE,aSYMMETRY,aTOTAL RUNOUT,aDIMENSION ORIGIN,aCONICAL TAPER,aSLOPE",
  "aCOUNTERBORE,aCOUNTERSINK,aAPL FUNCTIONAL SYMBOL I-BEAM,dSQUISH QUAD,dQUAD EQUAL,eDIVIDE",
  "eDIAMOND,eJOT,eCIRCLE,dCIRCLE STILE,eJOT,dSLASH BAR,dBACKSLASH BAR,dQUAD SLASH,eBACKSLASH",
  "eLESS-THAN,eGREATER-THAN,dLEFTWARDS VANE,dRIGHTWARDS VANE,dQUAD LEFTWARDS ARROW",
  "eRIGHTWARDS ARROW,dCIRCLE BACKSLASH,dDOWN TACK UNDERBAR,dDELTA STILE,dQUAD DOWN CARET,eDELTA",
  "dDOWN TACK JOT,dUPWARDS VANE,dQUAD UPWARDS ARROW,dUP TACK OVERBAR,dDEL STILE,dQUAD UP CARET",
  "eDEL,dUP TACK JOT,dDOWNWARDS VANE,dQUAD DOWNWARDS ARROW,dQUOTE UNDERBAR,dDELTA UNDERBAR",
  "dDIAMOND UNDERBAR,dJOT UNDERBAR,dCIRCLE UNDERBAR,dUP SHOE JOT,dQUOTE QUAD,dCIRCLE STAR",
  "dQUAD COLON,dUP TACK DIAERESIS,dDEL DIAERESIS,dSTAR DIAERESIS,dJOT DIAERESIS,dCIRCLE DIAERESIS",
  "dDOWN SHOE STILE,dLEFT SHOE STILE,dTILDE DIAERESIS,dGREATER-THAN DIAERESIS,dCOMMA BAR",
  "dDEL TILDE,dZILDE,dSTILE TILDE,dSEMICOLON UNDERBAR,dQUAD NOT EQUAL,eQUESTION,dDOWN CARET TILDE",
  "dUP CARET TILDE,dIOTA,dRHO,dOMEGA,dALPHA UNDERBAR,dEPSILON UNDERBAR,dIOTA UNDERBAR",
  "dOMEGA UNDERBAR,dALPHA,aNOT CHECK MARK,aRIGHT ANGLE WITH DOWNWARDS ZIGZAG ARROW",
  "aSHOULDERED OPEN BOX,aBELL SYMBOL,aVERTICAL LINE WITH MIDDLE DOT,aINSERTION SYMBOL",
  "aCONTINUOUS UNDERLINE SYMBOL,aDISCONTINUOUS UNDERLINE SYMBOL,aEMPHASIS SYMBOL",
  "aCOMPOSITION SYMBOL,aWHITE SQUARE WITH CENTRE VERTICAL LINE,aENTER SYMBOL",
  "aALTERNATIVE KEY SYMBOL,aHELM SYMBOL,aCIRCLED HORIZONTAL BAR WITH NOTCH,bTRIANGLE DOWN",
  "aBROKEN CIRCLE WITH NORTHWEST ARROW,aUNDO SYMBOL,aMONOSTABLE SYMBOL,aHYSTERESIS SYMBOL",
  "aOPEN-CIRCUIT-OUTPUT H-TYPE SYMBOL,bL-TYPE SYMBOL,aPASSIVE-PULL-DOWN-OUTPUT SYMBOL",
  "aPASSIVE-PULL-UP-OUTPUT SYMBOL,aDIRECT CURRENT SYMBOL FORM TWO,aSOFTWARE-FUNCTION SYMBOL",
  "aAPL FUNCTIONAL SYMBOL QUAD,aDECIMAL SEPARATOR KEY SYMBOL,aPREVIOUS PAGE,aNEXT PAGE",
  "aPRINT SCREEN SYMBOL,aCLEAR SCREEN SYMBOL,aLEFT PARENTHESIS UPPER HOOK,cEXTENSION,cLOWER HOOK",
  "aRIGHT PARENTHESIS UPPER HOOK,cEXTENSION,cLOWER HOOK,aLEFT SQUARE BRACKET UPPER CORNER",
  "dEXTENSION,dLOWER CORNER,aRIGHT SQUARE BRACKET UPPER CORNER,dEXTENSION,dLOWER CORNER",
  "aLEFT CURLY BRACKET UPPER HOOK,dMIDDLE PIECE,dLOWER HOOK,aCURLY BRACKET EXTENSION",
  "aRIGHT CURLY BRACKET UPPER HOOK,dMIDDLE PIECE,dLOWER HOOK,aINTEGRAL EXTENSION",
  "aHORIZONTAL LINE EXTENSION,aUPPER LEFT OR LOWER RIGHT CURLY BRACKET SECTION",
  "bRIGHT OR LOWER LEFT CURLY BRACKET SECTION,aSUMMATION TOP,bBOTTOM,aTOP SQUARE BRACKET",
  "aBOTTOM SQUARE BRACKET,dOVER TOP SQUARE BRACKET,aRADICAL SYMBOL BOTTOM,aLEFT VERTICAL BOX LINE",
  "aRIGHT VERTICAL BOX LINE,aHORIZONTAL SCAN LINE-1,cLINE-3,cLINE-7,cLINE-9",
  "aDENTISTRY SYMBOL LIGHT VERTICAL AND TOP RIGHT,fBOTTOM RIGHT,eWITH CIRCLE",
  "dDOWN AND HORIZONTAL WITH CIRCLE,dUP AND HORIZONTAL WITH CIRCLE,dVERTICAL WITH TRIANGLE",
  "dDOWN AND HORIZONTAL WITH TRIANGLE,dUP AND HORIZONTAL WITH TRIANGLE,dVERTICAL AND WAVE",
  "dDOWN AND HORIZONTAL WITH WAVE,dUP AND HORIZONTAL WITH WAVE,dDOWN AND HORIZONTAL",
  "dUP AND HORIZONTAL,dVERTICAL AND TOP LEFT,fBOTTOM LEFT,aSQUARE FOOT,aRETURN SYMBOL",
  "aEJECT SYMBOL,aVERTICAL LINE EXTENSION,aMETRICAL BREVE,bLONG OVER SHORT,bSHORT OVER LONG",
  "bLONG OVER TWO SHORTS,bTWO SHORTS OVER LONG,dJOINED,bTRISEME,bTETRASEME,bPENTASEME",
  "aEARTH GROUND,aFUSE,aTOP PARENTHESIS,aBOTTOM PARENTHESIS,aTOP CURLY BRACKET",
  "aBOTTOM CURLY BRACKET,aTOP TORTOISE SHELL BRACKET,aBOTTOM TORTOISE SHELL BRACKET",
  "aWHITE TRAPEZIUM,aBENZENE RING WITH CIRCLE,aSTRAIGHTNESS,aFLATNESS,aAC CURRENT",
  "aELECTRICAL INTERSECTION,aDECIMAL EXPONENT SYMBOL,aBLACK RIGHT-POINTING DOUBLE TRIANGLE",
  "bLEFT-POINTING DOUBLE TRIANGLE,bUP-POINTING DOUBLE TRIANGLE,bDOWN-POINTING DOUBLE TRIANGLE",
  "bRIGHT-POINTING DOUBLE TRIANGLE WITH VERTICAL BAR",
  "bLEFT-POINTING DOUBLE TRIANGLE WITH VERTICAL BAR",
  "bRIGHT-POINTING TRIANGLE WITH DOUBLE VERTICAL BAR,aALARM CLOCK,aSTOPWATCH,aTIMER CLOCK",
  "aHOURGLASS WITH FLOWING SAND,aBLACK MEDIUM LEFT-POINTING TRIANGLE,cRIGHT-POINTING TRIANGLE",
  "cUP-POINTING TRIANGLE,cDOWN-POINTING TRIANGLE,aDOUBLE VERTICAL BAR,aBLACK SQUARE FOR STOP",
  "bCIRCLE FOR RECORD,aPOWER SYMBOL,bON-OFF SYMBOL,bON SYMBOL,bSLEEP SYMBOL,aOBSERVER EYE SYMBOL",
  "aSYMBOL FOR NULL,cSTART OF HEADING,eTEXT,cEND OF TEXT,eTRANSMISSION,cENQUIRY,cACKNOWLEDGE",
  "cBELL,cBACKSPACE,cHORIZONTAL TABULATION,cLINE FEED,cVERTICAL TABULATION,cFORM FEED",
  "cCARRIAGE RETURN,cSHIFT OUT,dIN,cDATA LINK ESCAPE,cDEVICE CONTROL ONE,eTWO,eTHREE,eFOUR",
  "cNEGATIVE ACKNOWLEDGE,cSYNCHRONOUS IDLE,cEND OF TRANSMISSION BLOCK,cCANCEL,cEND OF MEDIUM",
  "cSUBSTITUTE,cESCAPE,cFILE SEPARATOR,cGROUP SEPARATOR,cRECORD SEPARATOR,cUNIT SEPARATOR,cSPACE",
  "cDELETE,aBLANK SYMBOL,aOPEN BOX,aSYMBOL FOR NEWLINE,cDELETE FORM TWO,cSUBSTITUTE FORM TWO",
  "2440:aOCR HOOK,bCHAIR,bFORK,bINVERTED FORK,bBELT BUCKLE,bBOW TIE,bBRANCH BANK IDENTIFICATION",
  "bAMOUNT OF CHECK,bDASH,bCUSTOMER ACCOUNT NUMBER,bDOUBLE BACKSLASH,2460:aCIRCLED DIGIT ONE,cTWO",
  "cTHREE,cFOUR,cFIVE,cSIX,cSEVEN,cEIGHT,cNINE,bNUMBER TEN,cELEVEN,cTWELVE,cTHIRTEEN,cFOURTEEN",
  "cFIFTEEN,cSIXTEEN,cSEVENTEEN,cEIGHTEEN,cNINETEEN,cTWENTY,aPARENTHESIZED DIGIT ONE,cTWO,cTHREE",
  "cFOUR,cFIVE,cSIX,cSEVEN,cEIGHT,cNINE,bNUMBER TEN,cELEVEN,cTWELVE,cTHIRTEEN,cFOURTEEN,cFIFTEEN",
  "cSIXTEEN,cSEVENTEEN,cEIGHTEEN,cNINETEEN,cTWENTY,aDIGIT ONE FULL STOP,bTWO FULL STOP",
  "bTHREE FULL STOP,bFOUR FULL STOP,bFIVE FULL STOP,bSIX FULL STOP,bSEVEN FULL STOP",
  "bEIGHT FULL STOP,bNINE FULL STOP,aNUMBER TEN FULL STOP,bELEVEN FULL STOP,bTWELVE FULL STOP",
  "bTHIRTEEN FULL STOP,bFOURTEEN FULL STOP,bFIFTEEN FULL STOP,bSIXTEEN FULL STOP",
  "bSEVENTEEN FULL STOP,bEIGHTEEN FULL STOP,bNINETEEN FULL STOP,bTWENTY FULL STOP",
  "aPARENTHESIZED LATIN SMALL LETTER A,eB,eC,eD,eE,eF,eG,eH,eI,eJ,eK,eL,eM,eN,eO,eP,eQ,eR,eS,eT",
  "eU,eV,eW,eX,eY,eZ,aCIRCLED LATIN CAPITAL LETTER A,eB,eC,eD,eE,eF,eG,eH,eI,eJ,eK,eL,eM,eN,eO,eP",
  "eQ,eR,eS,eT,eU,eV,eW,eX,eY,eZ,cSMALL LETTER A,eB,eC,eD,eE,eF,eG,eH,eI,eJ,eK,eL,eM,eN,eO,eP,eQ",
  "eR,eS,eT,eU,eV,eW,eX,eY,eZ,bDIGIT ZERO,aNEGATIVE CIRCLED NUMBER ELEVEN,dTWELVE,dTHIRTEEN",
  "dFOURTEEN,dFIFTEEN,dSIXTEEN,dSEVENTEEN,dEIGHTEEN,dNINETEEN,dTWENTY,aDOUBLE CIRCLED DIGIT ONE",
  "dTWO,dTHREE,dFOUR,dFIVE,dSIX,dSEVEN,dEIGHT,dNINE,cNUMBER TEN,aNEGATIVE CIRCLED DIGIT ZERO"]

/-- Names from box drawing to the last of the arrows. -/
def drawingNames : List String := [
  "2500:aBOX DRAWINGS LIGHT HORIZONTAL,cHEAVY HORIZONTAL,cLIGHT VERTICAL,cHEAVY VERTICAL",
  "cLIGHT TRIPLE DASH HORIZONTAL,cHEAVY TRIPLE DASH HORIZONTAL,cLIGHT TRIPLE DASH VERTICAL",
  "cHEAVY TRIPLE DASH VERTICAL,cLIGHT QUADRUPLE DASH HORIZONTAL,cHEAVY QUADRUPLE DASH HORIZONTAL",
  "cLIGHT QUADRUPLE DASH VERTICAL,cHEAVY QUADRUPLE DASH VERTICAL,cLIGHT DOWN AND RIGHT",
  "cDOWN LIGHT AND RIGHT HEAVY,dHEAVY AND RIGHT LIGHT,cHEAVY DOWN AND RIGHT,cLIGHT DOWN AND LEFT",
  "cDOWN LIGHT AND LEFT HEAVY,dHEAVY AND LEFT LIGHT,cHEAVY DOWN AND LEFT,cLIGHT UP AND RIGHT",
  "cUP LIGHT AND RIGHT HEAVY,dHEAVY AND RIGHT LIGHT,cHEAVY UP AND RIGHT,cLIGHT UP AND LEFT",
  "cUP LIGHT AND LEFT HEAVY,dHEAVY AND LEFT LIGHT,cHEAVY UP AND LEFT,cLIGHT VERTICAL AND RIGHT",
  "cVERTICAL LIGHT AND RIGHT HEAVY,cUP HEAVY AND RIGHT DOWN LIGHT,cDOWN HEAVY AND RIGHT UP LIGHT",
  "cVERTICAL HEAVY AND RIGHT LIGHT,cDOWN LIGHT AND RIGHT UP HEAVY,cUP LIGHT AND RIGHT DOWN HEAVY",
  "cHEAVY VERTICAL AND RIGHT,cLIGHT VERTICAL AND LEFT,cVERTICAL LIGHT AND LEFT HEAVY",
  "cUP HEAVY AND LEFT DOWN LIGHT,cDOWN HEAVY AND LEFT UP LIGHT,cVERTICAL HEAVY AND LEFT LIGHT",
  "cDOWN LIGHT AND LEFT UP HEAVY,cUP LIGHT AND LEFT DOWN HEAVY,cHEAVY VERTICAL AND LEFT",
  "cLIGHT DOWN AND HORIZONTAL,cLEFT HEAVY AND RIGHT DOWN LIGHT,cRIGHT HEAVY AND LEFT DOWN LIGHT",
  "cDOWN LIGHT AND HORIZONTAL HEAVY,dHEAVY AND HORIZONTAL LIGHT,cRIGHT LIGHT AND LEFT DOWN HEAVY",
  "cLEFT LIGHT AND RIGHT DOWN HEAVY,cHEAVY DOWN AND HORIZONTAL,cLIGHT UP AND HORIZONTAL",
  "cLEFT HEAVY AND RIGHT UP LIGHT,cRIGHT HEAVY AND LEFT UP LIGHT,cUP LIGHT AND HORIZONTAL HEAVY",
  "dHEAVY AND HORIZONTAL LIGHT,cRIGHT LIGHT AND LEFT UP HEAVY,cLEFT LIGHT AND RIGHT UP HEAVY",
  "cHEAVY UP AND HORIZONTAL,cLIGHT VERTICAL AND HORIZONTAL,cLEFT HEAVY AND RIGHT VERTICAL LIGHT",
  "cRIGHT HEAVY AND LEFT VERTICAL LIGHT,cVERTICAL LIGHT AND HORIZONTAL HEAVY",
  "cUP HEAVY AND DOWN HORIZONTAL LIGHT,cDOWN HEAVY AND UP HORIZONTAL LIGHT",
  "cVERTICAL HEAVY AND HORIZONTAL LIGHT,cLEFT UP HEAVY AND RIGHT DOWN LIGHT",
  "cRIGHT UP HEAVY AND LEFT DOWN LIGHT,cLEFT DOWN HEAVY AND RIGHT UP LIGHT",
  "cRIGHT DOWN HEAVY AND LEFT UP LIGHT,cDOWN LIGHT AND UP HORIZONTAL HEAVY",
  "cUP LIGHT AND DOWN HORIZONTAL HEAVY,cRIGHT LIGHT AND LEFT VERTICAL HEAVY",
  "cLEFT LIGHT AND RIGHT VERTICAL HEAVY,cHEAVY VERTICAL AND HORIZONTAL",
  "cLIGHT DOUBLE DASH HORIZONTAL,cHEAVY DOUBLE DASH HORIZONTAL,cLIGHT DOUBLE DASH VERTICAL",
  "cHEAVY DOUBLE DASH VERTICAL,cDOUBLE HORIZONTAL,dVERTICAL,cDOWN SINGLE AND RIGHT DOUBLE",
  "dDOUBLE AND RIGHT SINGLE,cDOUBLE DOWN AND RIGHT,cDOWN SINGLE AND LEFT DOUBLE",
  "dDOUBLE AND LEFT SINGLE,cDOUBLE DOWN AND LEFT,cUP SINGLE AND RIGHT DOUBLE",
  "dDOUBLE AND RIGHT SINGLE,cDOUBLE UP AND RIGHT,cUP SINGLE AND LEFT DOUBLE",
  "dDOUBLE AND LEFT SINGLE,cDOUBLE UP AND LEFT,cVERTICAL SINGLE AND RIGHT DOUBLE",
  "dDOUBLE AND RIGHT SINGLE,cDOUBLE VERTICAL AND RIGHT,cVERTICAL SINGLE AND LEFT DOUBLE",
  "dDOUBLE AND LEFT SINGLE,cDOUBLE VERTICAL AND LEFT,cDOWN SINGLE AND HORIZONTAL DOUBLE",
  "dDOUBLE AND HORIZONTAL SINGLE,cDOUBLE DOWN AND HORIZONTAL,cUP SINGLE AND HORIZONTAL DOUBLE",
  "dDOUBLE AND HORIZONTAL SINGLE,cDOUBLE UP AND HORIZONTAL,cVERTICAL SINGLE AND HORIZONTAL DOUBLE",
  "dDOUBLE AND HORIZONTAL SINGLE,cDOUBLE VERTICAL AND HORIZONTAL,cLIGHT ARC DOWN AND RIGHT,gLEFT",
  "eUP AND LEFT,gRIGHT,dDIAGONAL UPPER RIGHT TO LOWER LEFT,fLEFT TO LOWER RIGHT,eCROSS,dLEFT,dUP",
  "dRIGHT,dDOWN,cHEAVY LEFT,dUP,dRIGHT,dDOWN,cLIGHT LEFT AND HEAVY RIGHT,dUP AND HEAVY DOWN",
  "cHEAVY LEFT AND LIGHT RIGHT,dUP AND LIGHT DOWN,aUPPER HALF BLOCK,aLOWER ONE EIGHTH BLOCK",
  "cQUARTER BLOCK,bTHREE EIGHTHS BLOCK,bHALF BLOCK,bFIVE EIGHTHS BLOCK,bTHREE QUARTERS BLOCK",
  "bSEVEN EIGHTHS BLOCK,aFULL BLOCK,aLEFT SEVEN EIGHTHS BLOCK,bTHREE QUARTERS BLOCK",
  "bFIVE EIGHTHS BLOCK,bHALF BLOCK,bTHREE EIGHTHS BLOCK,bONE QUARTER BLOCK,cEIGHTH BLOCK",
  "aRIGHT HALF BLOCK,aLIGHT SHADE,aMEDIUM SHADE,aDARK SHADE,aUPPER ONE EIGHTH BLOCK",
  "aRIGHT ONE EIGHTH BLOCK,aQUADRANT LOWER LEFT,cRIGHT,bUPPER LEFT",
  "dAND LOWER LEFT AND LOWER RIGHT,fRIGHT,eUPPER RIGHT AND LOWER LEFT,iRIGHT,cRIGHT",
  "dAND LOWER LEFT,gAND LOWER RIGHT,aBLACK SQUARE,aWHITE SQUARE,cWITH ROUNDED CORNERS",
  "cCONTAINING BLACK SMALL SQUARE,aSQUARE WITH HORIZONTAL FILL,cVERTICAL FILL",
  "cORTHOGONAL CROSSHATCH FILL,cUPPER LEFT TO LOWER RIGHT FILL,dRIGHT TO LOWER LEFT FILL",
  "cDIAGONAL CROSSHATCH FILL,aBLACK SMALL SQUARE,aWHITE SMALL SQUARE,aBLACK RECTANGLE",
  "aWHITE RECTANGLE,aBLACK VERTICAL RECTANGLE,aWHITE VERTICAL RECTANGLE,aBLACK PARALLELOGRAM",
  "aWHITE PARALLELOGRAM,aBLACK UP-POINTING TRIANGLE,aWHITE UP-POINTING TRIANGLE",
  "aBLACK UP-POINTING SMALL TRIANGLE,aWHITE UP-POINTING SMALL TRIANGLE",
  "aBLACK RIGHT-POINTING TRIANGLE,aWHITE RIGHT-POINTING TRIANGLE",
  "aBLACK RIGHT-POINTING SMALL TRIANGLE,aWHITE RIGHT-POINTING SMALL TRIANGLE",
  "aBLACK RIGHT-POINTING POINTER,aWHITE RIGHT-POINTING POINTER,aBLACK DOWN-POINTING TRIANGLE",
  "aWHITE DOWN-POINTING TRIANGLE,aBLACK DOWN-POINTING SMALL TRIANGLE",
  "aWHITE DOWN-POINTING SMALL TRIANGLE,aBLACK LEFT-POINTING TRIANGLE",
  "aWHITE LEFT-POINTING TRIANGLE,aBLACK LEFT-POINTING SMALL TRIANGLE",
  "aWHITE LEFT-POINTING SMALL TRIANGLE,aBLACK LEFT-POINTING POINTER,aWHITE LEFT-POINTING POINTER",
  "aBLACK DIAMOND,aWHITE DIAMOND,cCONTAINING BLACK SMALL DIAMOND,aFISHEYE,aLOZENGE,aWHITE CIRCLE",
  "aDOTTED CIRCLE,aCIRCLE WITH VERTICAL FILL,aBULLSEYE,aBLACK CIRCLE,aCIRCLE WITH LEFT HALF BLACK",
  "cRIGHT HALF BLACK,cLOWER HALF BLACK,cUPPER HALF BLACK,dRIGHT QUADRANT BLACK",
  "cALL BUT UPPER LEFT QUADRANT BLACK,aLEFT HALF BLACK CIRCLE,aRIGHT HALF BLACK CIRCLE",
  "aINVERSE BULLET,bWHITE CIRCLE,aUPPER HALF INVERSE WHITE CIRCLE",
  "aLOWER HALF INVERSE WHITE CIRCLE,aUPPER LEFT QUADRANT CIRCULAR ARC",
  "bRIGHT QUADRANT CIRCULAR ARC,aLOWER RIGHT QUADRANT CIRCULAR ARC,bLEFT QUADRANT CIRCULAR ARC",
  "aUPPER HALF CIRCLE,aLOWER HALF CIRCLE,aBLACK LOWER RIGHT TRIANGLE,cLEFT TRIANGLE",
  "bUPPER LEFT TRIANGLE,cRIGHT TRIANGLE,aWHITE BULLET,aSQUARE WITH LEFT HALF BLACK",
  "cRIGHT HALF BLACK,cUPPER LEFT DIAGONAL HALF BLACK,cLOWER RIGHT DIAGONAL HALF BLACK",
  "aWHITE SQUARE WITH VERTICAL BISECTING LINE,bUP-POINTING TRIANGLE WITH DOT",
  "aUP-POINTING TRIANGLE WITH LEFT HALF BLACK,dRIGHT HALF BLACK,aLARGE CIRCLE",
  "aWHITE SQUARE WITH UPPER LEFT QUADRANT,dLOWER LEFT QUADRANT,eRIGHT QUADRANT",
  "dUPPER RIGHT QUADRANT,bCIRCLE WITH UPPER LEFT QUADRANT,dLOWER LEFT QUADRANT,eRIGHT QUADRANT",
  "dUPPER RIGHT QUADRANT,aUPPER LEFT TRIANGLE,bRIGHT TRIANGLE,aLOWER LEFT TRIANGLE",
  "aWHITE MEDIUM SQUARE,aBLACK MEDIUM SQUARE,aWHITE MEDIUM SMALL SQUARE",
  "aBLACK MEDIUM SMALL SQUARE,aLOWER RIGHT TRIANGLE,aBLACK SUN WITH RAYS,aCLOUD,aUMBRELLA",
  "aSNOWMAN,aCOMET,aBLACK STAR,aWHITE STAR,aLIGHTNING,aTHUNDERSTORM,aSUN,aASCENDING NODE",
  "aDESCENDING NODE,aCONJUNCTION,aOPPOSITION,aBLACK TELEPHONE,aWHITE TELEPHONE,aBALLOT BOX",
  "cWITH CHECK,dX,aSALTIRE,aUMBRELLA WITH RAIN DROPS,aHOT BEVERAGE,aWHITE SHOGI PIECE",
  "aBLACK SHOGI PIECE,aSHAMROCK,aREVERSED ROTATED FLORAL HEART BULLET,aBLACK LEFT POINTING INDEX",
  "bRIGHT POINTING INDEX,aWHITE LEFT POINTING INDEX,bUP POINTING INDEX,bRIGHT POINTING INDEX",
  "bDOWN POINTING INDEX,aSKULL AND CROSSBONES,aCAUTION SIGN,aRADIOACTIVE SIGN,aBIOHAZARD SIGN",
  "aCADUCEUS,aANKH,aORTHODOX CROSS,aCHI RHO,aCROSS OF LORRAINE,cJERUSALEM,aSTAR AND CRESCENT",
  "aFARSI SYMBOL,aADI SHAKTI,aHAMMER AND SICKLE,aPEACE SYMBOL,aYIN YANG,aTRIGRAM FOR HEAVEN,cLAKE",
  "cFIRE,cTHUNDER,cWIND,cWATER,cMOUNTAIN,cEARTH,aWHEEL OF DHARMA,aWHITE FROWNING FACE",
  "bSMILING FACE,aBLACK SMILING FACE,aWHITE SUN WITH RAYS,aFIRST QUARTER MOON,aLAST QUARTER MOON",
  "aMERCURY,aFEMALE SIGN,aEARTH,aMALE SIGN,aJUPITER,aSATURN,aURANUS,aNEPTUNE,aPLUTO,aARIES",
  "aTAURUS,aGEMINI,aCANCER,aLEO,aVIRGO,aLIBRA,aSCORPIUS,aSAGITTARIUS,aCAPRICORN,aAQUARIUS,aPISCES",
  "aWHITE CHESS KING,cQUEEN,cROOK,cBISHOP,cKNIGHT,cPAWN,aBLACK CHESS KING,cQUEEN,cROOK,cBISHOP",
  "cKNIGHT,cPAWN,bSPADE SUIT,aWHITE HEART SUIT,bDIAMOND SUIT,aBLACK CLUB SUIT,aWHITE SPADE SUIT",
  "aBLACK HEART SUIT,bDIAMOND SUIT,aWHITE CLUB SUIT,aHOT SPRINGS,aQUARTER NOTE,aEIGHTH NOTE",
  "aBEAMED EIGHTH NOTES,bSIXTEENTH NOTES,aMUSIC FLAT SIGN,bNATURAL SIGN,bSHARP SIGN",
  "aWEST SYRIAC CROSS,aEAST SYRIAC CROSS,aUNIVERSAL RECYCLING SYMBOL",
  "aRECYCLING SYMBOL FOR TYPE-1 PLASTICS,dTYPE-2 PLASTICS,dTYPE-3 PLASTICS,dTYPE-4 PLASTICS",
  "dTYPE-5 PLASTICS,dTYPE-6 PLASTICS,dTYPE-7 PLASTICS,dGENERIC MATERIALS",
  "aBLACK UNIVERSAL RECYCLING SYMBOL,aRECYCLED PAPER SYMBOL,aPARTIALLY-RECYCLED PAPER SYMBOL",
  "aPERMANENT PAPER SIGN,aWHEELCHAIR SYMBOL,aDIE FACE-1,bFACE-2,bFACE-3,bFACE-4,bFACE-5,bFACE-6",
  "aWHITE CIRCLE WITH DOT RIGHT,dTWO DOTS,aBLACK CIRCLE WITH WHITE DOT RIGHT,dTWO WHITE DOTS",
  "aMONOGRAM FOR YANG,cYIN,aDIGRAM FOR GREATER YANG,cLESSER YIN,dYANG,cGREATER YIN,aWHITE FLAG",
  "aBLACK FLAG,aHAMMER AND PICK,aANCHOR,aCROSSED SWORDS,aSTAFF OF AESCULAPIUS,aSCALES,aALEMBIC",
  "aFLOWER,aGEAR,aSTAFF OF HERMES,aATOM SYMBOL,aFLEUR-DE-LIS,aOUTLINED WHITE STAR",
  "aTHREE LINES CONVERGING RIGHT,dLEFT,aWARNING SIGN,aHIGH VOLTAGE SIGN,aDOUBLED FEMALE SIGN",
  "bMALE SIGN,aINTERLOCKED FEMALE AND MALE SIGN,aMALE AND FEMALE SIGN,bWITH STROKE SIGN",
  "dAND MALE AND FEMALE SIGN,aVERTICAL MALE WITH STROKE SIGN,aHORIZONTAL MALE WITH STROKE SIGN",
  "aMEDIUM WHITE CIRCLE,bBLACK CIRCLE,bSMALL WHITE CIRCLE,aMARRIAGE SYMBOL,aDIVORCE SYMBOL",
  "aUNMARRIED PARTNERSHIP SYMBOL,aCOFFIN,aFUNERAL URN,aNEUTER,aCERES,aPALLAS,aJUNO,aVESTA,aCHIRON",
  "aBLACK MOON LILITH,aSEXTILE,aSEMISEXTILE,aQUINCUNX,aSESQUIQUADRATE,aSOCCER BALL,aBASEBALL",
  "aSQUARED KEY,aWHITE DRAUGHTS MAN,cKING,aBLACK DRAUGHTS MAN,cKING,aSNOWMAN WITHOUT SNOW",
  "aSUN BEHIND CLOUD,aRAIN,aBLACK SNOWMAN,aTHUNDER CLOUD AND RAIN,aTURNED WHITE SHOGI PIECE",
  "bBLACK SHOGI PIECE,aWHITE DIAMOND IN SQUARE,aCROSSING LANES,aDISABLED CAR,aOPHIUCHUS,aPICK",
  "aCAR SLIDING,aHELMET WITH WHITE CROSS,aCIRCLED CROSSING LANES,aCHAINS,aNO ENTRY",
  "aALTERNATE ONE-WAY LEFT WAY TRAFFIC,aBLACK TWO-WAY LEFT WAY TRAFFIC",
  "aWHITE TWO-WAY LEFT WAY TRAFFIC,aBLACK LEFT LANE MERGE,aWHITE LEFT LANE MERGE,aDRIVE SLOW SIGN",
  "aHEAVY WHITE DOWN-POINTING TRIANGLE,aLEFT CLOSED ENTRY,aSQUARED SALTIRE",
  "aFALLING DIAGONAL IN WHITE CIRCLE IN BLACK SQUARE,aBLACK TRUCK,aRESTRICTED LEFT ENTRY-1",
  "cENTRY-2,aASTRONOMICAL SYMBOL FOR URANUS,aHEAVY CIRCLE WITH STROKE AND TWO DOTS ABOVE",
  "aPENTAGRAM,aRIGHT-HANDED INTERLACED PENTAGRAM,aLEFT-HANDED INTERLACED PENTAGRAM",
  "aINVERTED PENTAGRAM,aBLACK CROSS ON SHIELD,aSHINTO SHRINE,aCHURCH,aCASTLE,aHISTORIC SITE",
  "aGEAR WITHOUT HUB,bWITH HANDLES,aMAP SYMBOL FOR LIGHTHOUSE,aMOUNTAIN,aUMBRELLA ON GROUND",
  "aFOUNTAIN,aFLAG IN HOLE,aFERRY,aSAILBOAT,aSQUARE FOUR CORNERS,aSKIER,aICE SKATE",
  "aPERSON WITH BALL,aTENT,aJAPANESE BANK SYMBOL,aHEADSTONE GRAVEYARD SYMBOL,aFUEL PUMP",
  "aCUP ON BLACK SQUARE,aWHITE FLAG WITH HORIZONTAL MIDDLE BLACK STRIPE,aBLACK SAFETY SCISSORS",
  "aUPPER BLADE SCISSORS,aBLACK SCISSORS,aLOWER BLADE SCISSORS,aWHITE SCISSORS,bHEAVY CHECK MARK",
  "aTELEPHONE LOCATION SIGN,aTAPE DRIVE,aAIRPLANE,aENVELOPE,aRAISED FIST,bHAND,aVICTORY HAND",
  "aWRITING HAND,aLOWER RIGHT PENCIL,aPENCIL,aUPPER RIGHT PENCIL,aWHITE NIB,aBLACK NIB",
  "aCHECK MARK,aHEAVY CHECK MARK,aMULTIPLICATION X,aHEAVY MULTIPLICATION X,aBALLOT X",
  "aHEAVY BALLOT X,aOUTLINED GREEK CROSS,aHEAVY GREEK CROSS,aOPEN CENTRE CROSS",
  "aHEAVY OPEN CENTRE CROSS,aLATIN CROSS,aSHADOWED WHITE LATIN CROSS,aOUTLINED LATIN CROSS",
  "aMALTESE CROSS,aSTAR OF DAVID,aFOUR TEARDROP-SPOKED ASTERISK,bBALLOON-SPOKED ASTERISK",
  "aHEAVY FOUR BALLOON-SPOKED ASTERISK,aFOUR CLUB-SPOKED ASTERISK,aBLACK FOUR POINTED STAR",
  "aWHITE FOUR POINTED STAR,aSPARKLES,aSTRESS OUTLINED WHITE STAR,aCIRCLED WHITE STAR",
  "aOPEN CENTRE BLACK STAR,aBLACK CENTRE WHITE STAR,aOUTLINED BLACK STAR",
  "aHEAVY OUTLINED BLACK STAR,aPINWHEEL STAR,aSHADOWED WHITE STAR,aHEAVY ASTERISK",
  "aOPEN CENTRE ASTERISK,aEIGHT SPOKED ASTERISK,bPOINTED BLACK STAR,cPINWHEEL STAR",
  "aSIX POINTED BLACK STAR,aEIGHT POINTED RECTILINEAR BLACK STAR",
  "aHEAVY EIGHT POINTED RECTILINEAR BLACK STAR,aTWELVE POINTED BLACK STAR",
  "aSIXTEEN POINTED ASTERISK,aTEARDROP-SPOKED ASTERISK,aOPEN CENTRE TEARDROP-SPOKED ASTERISK",
  "aHEAVY TEARDROP-SPOKED ASTERISK,aSIX PETALLED BLACK AND WHITE FLORETTE,aBLACK FLORETTE",
  "aWHITE FLORETTE,aEIGHT PETALLED OUTLINED BLACK FLORETTE",
  "aCIRCLED OPEN CENTRE EIGHT POINTED STAR,aHEAVY TEARDROP-SPOKED PINWHEEL ASTERISK,aSNOWFLAKE",
  "aTIGHT TRIFOLIATE SNOWFLAKE,aHEAVY CHEVRON SNOWFLAKE,aSPARKLE,aHEAVY SPARKLE",
  "aBALLOON-SPOKED ASTERISK,aEIGHT TEARDROP-SPOKED PROPELLER ASTERISK",
  "aHEAVY EIGHT TEARDROP-SPOKED PROPELLER ASTERISK,aCROSS MARK,aSHADOWED WHITE CIRCLE",
  "aNEGATIVE SQUARED CROSS MARK,aLOWER RIGHT DROP-SHADOWED WHITE SQUARE",
  "aUPPER RIGHT DROP-SHADOWED WHITE SQUARE,aLOWER RIGHT SHADOWED WHITE SQUARE",
  "aUPPER RIGHT SHADOWED WHITE SQUARE,aBLACK QUESTION MARK ORNAMENT,aWHITE QUESTION MARK ORNAMENT",
  "bEXCLAMATION MARK ORNAMENT,aBLACK DIAMOND MINUS WHITE X,aHEAVY EXCLAMATION MARK SYMBOL",
  "aLIGHT VERTICAL BAR,aMEDIUM VERTICAL BAR,aHEAVY VERTICAL BAR",
  "bSINGLE TURNED COMMA QUOTATION MARK ORNAMENT,cCOMMA QUOTATION MARK ORNAMENT",
  "bDOUBLE TURNED COMMA QUOTATION MARK ORNAMENT,cCOMMA QUOTATION MARK ORNAMENT",
  "bLOW SINGLE COMMA QUOTATION MARK ORNAMENT,cDOUBLE COMMA QUOTATION MARK ORNAMENT",
  "aCURVED STEM PARAGRAPH SIGN ORNAMENT,aHEAVY EXCLAMATION MARK ORNAMENT",
  "bHEART EXCLAMATION MARK ORNAMENT,bBLACK HEART,aROTATED HEAVY BLACK HEART BULLET,aFLORAL HEART",
  "aROTATED FLORAL HEART BULLET,aMEDIUM LEFT PARENTHESIS ORNAMENT,bRIGHT PARENTHESIS ORNAMENT",
  "bFLATTENED LEFT PARENTHESIS ORNAMENT,cRIGHT PARENTHESIS ORNAMENT",
  "bLEFT-POINTING ANGLE BRACKET ORNAMENT,bRIGHT-POINTING ANGLE BRACKET ORNAMENT",
  "aHEAVY LEFT-POINTING ANGLE QUOTATION MARK ORNAMENT",
  "bRIGHT-POINTING ANGLE QUOTATION MARK ORNAMENT,bLEFT-POINTING ANGLE BRACKET ORNAMENT",
  "bRIGHT-POINTING ANGLE BRACKET ORNAMENT,aLIGHT LEFT TORTOISE SHELL BRACKET ORNAMENT",
  "bRIGHT TORTOISE SHELL BRACKET ORNAMENT,aMEDIUM LEFT CURLY BRACKET ORNAMENT",
  "bRIGHT CURLY BRACKET ORNAMENT,aDINGBAT NEGATIVE CIRCLED DIGIT ONE,eTWO,eTHREE,eFOUR,eFIVE,eSIX",
  "eSEVEN,eEIGHT,eNINE,dNUMBER TEN,bCIRCLED SANS-SERIF DIGIT ONE,eTWO,eTHREE,eFOUR,eFIVE,eSIX",
  "eSEVEN,eEIGHT,eNINE,dNUMBER TEN,bNEGATIVE CIRCLED SANS-SERIF DIGIT ONE,fTWO,fTHREE,fFOUR,fFIVE",
  "fSIX,fSEVEN,fEIGHT,fNINE,eNUMBER TEN,aHEAVY WIDE-HEADED RIGHTWARDS ARROW,bPLUS SIGN",
  "bMINUS SIGN,bDIVISION SIGN,bSOUTH EAST ARROW,bRIGHTWARDS ARROW,bNORTH EAST ARROW",
  "aDRAFTING POINT RIGHTWARDS ARROW,aHEAVY ROUND-TIPPED RIGHTWARDS ARROW",
  "aTRIANGLE-HEADED RIGHTWARDS ARROW,aHEAVY TRIANGLE-HEADED RIGHTWARDS ARROW",
  "aDASHED TRIANGLE-HEADED RIGHTWARDS ARROW,aHEAVY DASHED TRIANGLE-HEADED RIGHTWARDS ARROW",
  "aBLACK RIGHTWARDS ARROW,aTHREE-D TOP-LIGHTED RIGHTWARDS ARROWHEAD",
  "bBOTTOM-LIGHTED RIGHTWARDS ARROWHEAD,aBLACK RIGHTWARDS ARROWHEAD",
  "aHEAVY BLACK CURVED DOWNWARDS AND RIGHTWARDS ARROW,dUPWARDS AND RIGHTWARDS ARROW",
  "aSQUAT BLACK RIGHTWARDS ARROW,aHEAVY CONCAVE-POINTED BLACK RIGHTWARDS ARROW",
  "aRIGHT-SHADED WHITE RIGHTWARDS ARROW,aLEFT-SHADED WHITE RIGHTWARDS ARROW",
  "aBACK-TILTED SHADOWED WHITE RIGHTWARDS ARROW,aFRONT-TILTED SHADOWED WHITE RIGHTWARDS ARROW",
  "aHEAVY LOWER RIGHT-SHADOWED WHITE RIGHTWARDS ARROW",
  "bUPPER RIGHT-SHADOWED WHITE RIGHTWARDS ARROW",
  "aNOTCHED LOWER RIGHT-SHADOWED WHITE RIGHTWARDS ARROW,aCURLY LOOP",
  "aNOTCHED UPPER RIGHT-SHADOWED WHITE RIGHTWARDS ARROW,aCIRCLED HEAVY WHITE RIGHTWARDS ARROW",
  "aWHITE-FEATHERED RIGHTWARDS ARROW,aBLACK-FEATHERED SOUTH EAST ARROW,bRIGHTWARDS ARROW",
  "bNORTH EAST ARROW,aHEAVY BLACK-FEATHERED SOUTH EAST ARROW,cRIGHTWARDS ARROW,cNORTH EAST ARROW",
  "aTEARDROP-BARBED RIGHTWARDS ARROW,aHEAVY TEARDROP-SHANKED RIGHTWARDS ARROW",
  "aWEDGE-TAILED RIGHTWARDS ARROW,aHEAVY WEDGE-TAILED RIGHTWARDS ARROW",
  "aOPEN-OUTLINED RIGHTWARDS ARROW,aDOUBLE CURLY LOOP,aTHREE DIMENSIONAL ANGLE",
  "aWHITE TRIANGLE CONTAINING SMALL WHITE TRIANGLE,aPERPENDICULAR,aOPEN SUBSET,bSUPERSET",
  "aLEFT S-SHAPED BAG DELIMITER,aRIGHT S-SHAPED BAG DELIMITER,aOR WITH DOT INSIDE",
  "aREVERSE SOLIDUS PRECEDING SUBSET,aSUPERSET PRECEDING SOLIDUS",
  "aVERTICAL BAR WITH HORIZONTAL STROKE,aMATHEMATICAL RISING DIAGONAL,aLONG DIVISION",
  "aMATHEMATICAL FALLING DIAGONAL,aSQUARED LOGICAL AND,cOR,aWHITE DIAMOND WITH CENTRED DOT",
  "aAND WITH DOT,aELEMENT OF OPENING UPWARDS,aLOWER RIGHT CORNER WITH DOT",
  "aUPPER LEFT CORNER WITH DOT,aLEFT OUTER JOIN,aRIGHT OUTER JOIN,aFULL OUTER JOIN,aLARGE UP TACK",
  "bDOWN TACK,aLEFT AND RIGHT DOUBLE TURNSTILE,dTACK,bMULTIMAP,aLONG RIGHT TACK,bLEFT TACK",
  "aUP TACK WITH CIRCLE ABOVE,aLOZENGE DIVIDED BY HORIZONTAL RULE,aWHITE CONCAVE-SIDED DIAMOND",
  "dWITH LEFTWARDS TICK,eRIGHTWARDS TICK,bSQUARE WITH LEFTWARDS TICK,dRIGHTWARDS TICK",
  "aMATHEMATICAL LEFT WHITE SQUARE BRACKET,bRIGHT WHITE SQUARE BRACKET,bLEFT ANGLE BRACKET",
  "bRIGHT ANGLE BRACKET,bLEFT DOUBLE ANGLE BRACKET,bRIGHT DOUBLE ANGLE BRACKET",
  "bLEFT WHITE TORTOISE SHELL BRACKET,bRIGHT WHITE TORTOISE SHELL BRACKET",
  "bLEFT FLATTENED PARENTHESIS,bRIGHT FLATTENED PARENTHESIS,aUPWARDS QUADRUPLE ARROW",
  "aDOWNWARDS QUADRUPLE ARROW,aANTICLOCKWISE GAPPED CIRCLE ARROW,aCLOCKWISE GAPPED CIRCLE ARROW",
  "aRIGHT ARROW WITH CIRCLED PLUS,aLONG LEFTWARDS ARROW,bRIGHTWARDS ARROW,bLEFT RIGHT ARROW",
  "bLEFTWARDS DOUBLE ARROW,bRIGHTWARDS DOUBLE ARROW,bLEFT RIGHT DOUBLE ARROW",
  "bLEFTWARDS ARROW FROM BAR,bRIGHTWARDS ARROW FROM BAR,bLEFTWARDS DOUBLE ARROW FROM BAR",
  "bRIGHTWARDS DOUBLE ARROW FROM BAR,cSQUIGGLE ARROW,aBRAILLE PATTERN BLANK,cDOTS-1,cDOTS-2",
  "cDOTS-12,cDOTS-3,cDOTS-13,cDOTS-23,cDOTS-123,cDOTS-4,cDOTS-14,cDOTS-24,cDOTS-124,cDOTS-34",
  "cDOTS-134,cDOTS-234,cDOTS-1234,cDOTS-5,cDOTS-15,cDOTS-25,cDOTS-125,cDOTS-35,cDOTS-135",
  "cDOTS-235,cDOTS-1235,cDOTS-45,cDOTS-145,cDOTS-245,cDOTS-1245,cDOTS-345,cDOTS-1345,cDOTS-2345",
  "cDOTS-12345,cDOTS-6,cDOTS-16,cDOTS-26,cDOTS-126,cDOTS-36,cDOTS-136,cDOTS-236,cDOTS-1236",
  "cDOTS-46,cDOTS-146,cDOTS-246,cDOTS-1246,cDOTS-346,cDOTS-1346,cDOTS-2346,cDOTS-12346,cDOTS-56",
  "cDOTS-156,cDOTS-256,cDOTS-1256,cDOTS-356,cDOTS-1356,cDOTS-2356,cDOTS-12356,cDOTS-456",
  "cDOTS-1456,cDOTS-2456,cDOTS-12456,cDOTS-3456,cDOTS-13456,cDOTS-23456,cDOTS-123456,cDOTS-7",
  "cDOTS-17,cDOTS-27,cDOTS-127,cDOTS-37,cDOTS-137,cDOTS-237,cDOTS-1237,cDOTS-47,cDOTS-147",
  "cDOTS-247,cDOTS-1247,cDOTS-347,cDOTS-1347,cDOTS-2347,cDOTS-12347,cDOTS-57,cDOTS-157,cDOTS-257",
  "cDOTS-1257,cDOTS-357,cDOTS-1357,cDOTS-2357,cDOTS-12357,cDOTS-457,cDOTS-1457,cDOTS-2457",
  "cDOTS-12457,cDOTS-3457,cDOTS-13457,cDOTS-23457,cDOTS-123457,cDOTS-67,cDOTS-167,cDOTS-267",
  "cDOTS-1267,cDOTS-367,cDOTS-1367,cDOTS-2367,cDOTS-12367,cDOTS-467,cDOTS-1467,cDOTS-2467",
  "cDOTS-12467,cDOTS-3467,cDOTS-13467,cDOTS-23467,cDOTS-123467,cDOTS-567,cDOTS-1567,cDOTS-2567",
  "cDOTS-12567,cDOTS-3567,cDOTS-13567,cDOTS-23567,cDOTS-123567,cDOTS-4567,cDOTS-14567,cDOTS-24567",
  "cDOTS-124567,cDOTS-34567,cDOTS-134567,cDOTS-234567,cDOTS-1234567,cDOTS-8,cDOTS-18,cDOTS-28",
  "cDOTS-128,cDOTS-38,cDOTS-138,cDOTS-238,cDOTS-1238,cDOTS-48,cDOTS-148,cDOTS-248,cDOTS-1248",
  "cDOTS-348,cDOTS-1348,cDOTS-2348,cDOTS-12348,cDOTS-58,cDOTS-158,cDOTS-258,cDOTS-1258,cDOTS-358",
  "cDOTS-1358,cDOTS-2358,cDOTS-12358,cDOTS-458,cDOTS-1458,cDOTS-2458,cDOTS-12458,cDOTS-3458",
  "cDOTS-13458,cDOTS-23458,cDOTS-123458,cDOTS-68,cDOTS-168,cDOTS-268,cDOTS-1268,cDOTS-368",
  "cDOTS-1368,cDOTS-2368,cDOTS-12368,cDOTS-468,cDOTS-1468,cDOTS-2468,cDOTS-12468,cDOTS-3468",
  "cDOTS-13468,cDOTS-23468,cDOTS-123468,cDOTS-568,cDOTS-1568,cDOTS-2568,cDOTS-12568,cDOTS-3568",
  "cDOTS-13568,cDOTS-23568,cDOTS-123568,cDOTS-4568,cDOTS-14568,cDOTS-24568,cDOTS-124568",
  "cDOTS-34568,cDOTS-134568,cDOTS-234568,cDOTS-1234568,cDOTS-78,cDOTS-178,cDOTS-278,cDOTS-1278",
  "cDOTS-378,cDOTS-1378,cDOTS-2378,cDOTS-12378,cDOTS-478,cDOTS-1478,cDOTS-2478,cDOTS-12478",
  "cDOTS-3478,cDOTS-13478,cDOTS-23478,cDOTS-123478,cDOTS-578,cDOTS-1578,cDOTS-2578,cDOTS-12578",
  "cDOTS-3578,cDOTS-13578,cDOTS-23578,cDOTS-123578,cDOTS-4578,cDOTS-14578,cDOTS-24578",
  "cDOTS-124578,cDOTS-34578,cDOTS-134578,cDOTS-234578,cDOTS-1234578,cDOTS-678,cDOTS-1678",
  "cDOTS-2678,cDOTS-12678,cDOTS-3678,cDOTS-13678,cDOTS-23678,cDOTS-123678,cDOTS-4678,cDOTS-14678",
  "cDOTS-24678,cDOTS-124678,cDOTS-34678,cDOTS-134678,cDOTS-234678,cDOTS-1234678,cDOTS-5678",
  "cDOTS-15678,cDOTS-25678,cDOTS-125678,cDOTS-35678,cDOTS-135678,cDOTS-235678,cDOTS-1235678",
  "cDOTS-45678,cDOTS-145678,cDOTS-245678,cDOTS-1245678,cDOTS-345678,cDOTS-1345678,cDOTS-2345678",
  "cDOTS-12345678,aRIGHTWARDS TWO-HEADED ARROW WITH VERTICAL STROKE,eDOUBLE VERTICAL STROKE",
  "aLEFTWARDS DOUBLE ARROW WITH VERTICAL STROKE,aRIGHTWARDS DOUBLE ARROW WITH VERTICAL STROKE",
  "aLEFT RIGHT DOUBLE ARROW WITH VERTICAL STROKE,aRIGHTWARDS TWO-HEADED ARROW FROM BAR",
  "aLEFTWARDS DOUBLE ARROW FROM BAR,aRIGHTWARDS DOUBLE ARROW FROM BAR",
  "aDOWNWARDS ARROW WITH HORIZONTAL STROKE,aUPWARDS ARROW WITH HORIZONTAL STROKE,bTRIPLE ARROW",
  "aDOWNWARDS TRIPLE ARROW,aLEFTWARDS DOUBLE DASH ARROW,aRIGHTWARDS DOUBLE DASH ARROW",
  "aLEFTWARDS TRIPLE DASH ARROW,aRIGHTWARDS TRIPLE DASH ARROW,bTWO-HEADED TRIPLE DASH ARROW",
  "bARROW WITH DOTTED STEM,aUPWARDS ARROW TO BAR,aDOWNWARDS ARROW TO BAR",
  "aRIGHTWARDS ARROW WITH TAIL WITH VERTICAL STROKE,fDOUBLE VERTICAL STROKE",
  "bTWO-HEADED ARROW WITH TAIL,fWITH VERTICAL STROKE,gDOUBLE VERTICAL STROKE",
  "aLEFTWARDS ARROW-TAIL,aRIGHTWARDS ARROW-TAIL,aLEFTWARDS DOUBLE ARROW-TAIL",
  "aRIGHTWARDS DOUBLE ARROW-TAIL,aLEFTWARDS ARROW TO BLACK DIAMOND",
  "aRIGHTWARDS ARROW TO BLACK DIAMOND,aLEFTWARDS ARROW FROM BAR TO BLACK DIAMOND",
  "aRIGHTWARDS ARROW FROM BAR TO BLACK DIAMOND,aNORTH WEST AND SOUTH EAST ARROW",
  "bEAST AND SOUTH WEST ARROW,bWEST ARROW WITH HOOK,bEAST ARROW WITH HOOK",
  "aSOUTH EAST ARROW WITH HOOK,bWEST ARROW WITH HOOK,aNORTH WEST ARROW AND NORTH EAST ARROW",
  "bEAST ARROW AND SOUTH EAST ARROW,aSOUTH EAST ARROW AND SOUTH WEST ARROW",
  "bWEST ARROW AND NORTH WEST ARROW,aRISING DIAGONAL CROSSING FALLING DIAGONAL",
  "aFALLING DIAGONAL CROSSING RISING DIAGONAL,aSOUTH EAST ARROW CROSSING NORTH EAST ARROW",
  "aNORTH EAST ARROW CROSSING SOUTH EAST ARROW,aFALLING DIAGONAL CROSSING NORTH EAST ARROW",
  "aRISING DIAGONAL CROSSING SOUTH EAST ARROW,aNORTH EAST ARROW CROSSING NORTH WEST ARROW",
  "bWEST ARROW CROSSING NORTH EAST ARROW,aWAVE ARROW POINTING DIRECTLY RIGHT",
  "aARROW POINTING RIGHTWARDS THEN CURVING UPWARDS,fDOWNWARDS,cDOWNWARDS THEN CURVING LEFTWARDS",
  "fRIGHTWARDS,aRIGHT-SIDE ARC CLOCKWISE ARROW,aLEFT-SIDE ARC ANTICLOCKWISE ARROW",
  "aTOP ARC ANTICLOCKWISE ARROW,aBOTTOM ARC ANTICLOCKWISE ARROW",
  "aTOP ARC CLOCKWISE ARROW WITH MINUS,cANTICLOCKWISE ARROW WITH PLUS",
  "aLOWER RIGHT SEMICIRCULAR CLOCKWISE ARROW,bLEFT SEMICIRCULAR ANTICLOCKWISE ARROW",
  "aANTICLOCKWISE CLOSED CIRCLE ARROW,aCLOCKWISE CLOSED CIRCLE ARROW",
  "aRIGHTWARDS ARROW ABOVE SHORT LEFTWARDS ARROW,aLEFTWARDS ARROW ABOVE SHORT RIGHTWARDS ARROW",
  "aSHORT RIGHTWARDS ARROW ABOVE LEFTWARDS ARROW,aRIGHTWARDS ARROW WITH PLUS BELOW",
  "aLEFTWARDS ARROW WITH PLUS BELOW,aRIGHTWARDS ARROW THROUGH X",
  "aLEFT RIGHT ARROW THROUGH SMALL CIRCLE,aUPWARDS TWO-HEADED ARROW FROM SMALL CIRCLE",
  "aLEFT BARB UP RIGHT BARB DOWN HARPOON,cDOWN RIGHT BARB UP HARPOON",
  "aUP BARB RIGHT DOWN BARB LEFT HARPOON,cLEFT DOWN BARB RIGHT HARPOON",
  "aLEFT BARB UP RIGHT BARB UP HARPOON,aUP BARB RIGHT DOWN BARB RIGHT HARPOON",
  "aLEFT BARB DOWN RIGHT BARB DOWN HARPOON,aUP BARB LEFT DOWN BARB LEFT HARPOON",
  "aLEFTWARDS HARPOON WITH BARB UP TO BAR,aRIGHTWARDS HARPOON WITH BARB UP TO BAR",
  "aUPWARDS HARPOON WITH BARB RIGHT TO BAR,aDOWNWARDS HARPOON WITH BARB RIGHT TO BAR",
  "aLEFTWARDS HARPOON WITH BARB DOWN TO BAR,aRIGHTWARDS HARPOON WITH BARB DOWN TO BAR",
  "aUPWARDS HARPOON WITH BARB LEFT TO BAR,aDOWNWARDS HARPOON WITH BARB LEFT TO BAR",
  "aLEFTWARDS HARPOON WITH BARB UP FROM BAR,aRIGHTWARDS HARPOON WITH BARB UP FROM BAR",
  "aUPWARDS HARPOON WITH BARB RIGHT FROM BAR,aDOWNWARDS HARPOON WITH BARB RIGHT FROM BAR",
  "aLEFTWARDS HARPOON WITH BARB DOWN FROM BAR,aRIGHTWARDS HARPOON WITH BARB DOWN FROM BAR",
  "aUPWARDS HARPOON WITH BARB LEFT FROM BAR,aDOWNWARDS HARPOON WITH BARB LEFT FROM BAR",
  "aLEFTWARDS HARPOON WITH BARB UP ABOVE LEFTWARDS HARPOON WITH BARB DOWN",
  "aUPWARDS HARPOON WITH BARB LEFT BESIDE UPWARDS HARPOON WITH BARB RIGHT",
  "aRIGHTWARDS HARPOON WITH BARB UP ABOVE RIGHTWARDS HARPOON WITH BARB DOWN",
  "aDOWNWARDS HARPOON WITH BARB LEFT BESIDE DOWNWARDS HARPOON WITH BARB RIGHT",
  "aLEFTWARDS HARPOON WITH BARB UP ABOVE RIGHTWARDS HARPOON WITH BARB UP",
  "eDOWN ABOVE RIGHTWARDS HARPOON WITH BARB DOWN",
  "aRIGHTWARDS HARPOON WITH BARB UP ABOVE LEFTWARDS HARPOON WITH BARB UP",
  "eDOWN ABOVE LEFTWARDS HARPOON WITH BARB DOWN,aLEFTWARDS HARPOON WITH BARB UP ABOVE LONG DASH",
  "eDOWN BELOW LONG DASH,aRIGHTWARDS HARPOON WITH BARB UP ABOVE LONG DASH,eDOWN BELOW LONG DASH",
  "aUPWARDS HARPOON WITH BARB LEFT BESIDE DOWNWARDS HARPOON WITH BARB RIGHT",
  "aDOWNWARDS HARPOON WITH BARB LEFT BESIDE UPWARDS HARPOON WITH BARB RIGHT",
  "aRIGHT DOUBLE ARROW WITH ROUNDED HEAD,aEQUALS SIGN ABOVE RIGHTWARDS ARROW",
  "aTILDE OPERATOR ABOVE RIGHTWARDS ARROW,aLEFTWARDS ARROW ABOVE TILDE OPERATOR",
  "aRIGHTWARDS ARROW ABOVE TILDE OPERATOR,dALMOST EQUAL TO,aLESS-THAN ABOVE LEFTWARDS ARROW",
  "aLEFTWARDS ARROW THROUGH LESS-THAN,aGREATER-THAN ABOVE RIGHTWARDS ARROW",
  "aSUBSET ABOVE RIGHTWARDS ARROW,aLEFTWARDS ARROW THROUGH SUBSET,aSUPERSET ABOVE LEFTWARDS ARROW",
  "aLEFT FISH TAIL,aRIGHT FISH TAIL,aUP FISH TAIL,aDOWN FISH TAIL,aTRIPLE VERTICAL BAR DELIMITER",
  "aZ NOTATION SPOT,cTYPE COLON,aLEFT WHITE CURLY BRACKET,aRIGHT WHITE CURLY BRACKET",
  "aLEFT WHITE PARENTHESIS,aRIGHT WHITE PARENTHESIS,aZ NOTATION LEFT IMAGE BRACKET",
  "cRIGHT IMAGE BRACKET,cLEFT BINDING BRACKET,cRIGHT BINDING BRACKET",
  "aLEFT SQUARE BRACKET WITH UNDERBAR,aRIGHT SQUARE BRACKET WITH UNDERBAR",
  "aLEFT SQUARE BRACKET WITH TICK IN TOP CORNER,aRIGHT SQUARE BRACKET WITH TICK IN BOTTOM CORNER",
  "aLEFT SQUARE BRACKET WITH TICK IN BOTTOM CORNER,aRIGHT SQUARE BRACKET WITH TICK IN TOP CORNER",
  "aLEFT ANGLE BRACKET WITH DOT,aRIGHT ANGLE BRACKET WITH DOT,aLEFT ARC LESS-THAN BRACKET",
  "aRIGHT ARC GREATER-THAN BRACKET,aDOUBLE LEFT ARC GREATER-THAN BRACKET",
  "bRIGHT ARC LESS-THAN BRACKET,aLEFT BLACK TORTOISE SHELL BRACKET",
  "aRIGHT BLACK TORTOISE SHELL BRACKET,aDOTTED FENCE,aVERTICAL ZIGZAG LINE",
  "aMEASURED ANGLE OPENING LEFT,aRIGHT ANGLE VARIANT WITH SQUARE,aMEASURED RIGHT ANGLE WITH DOT",
  "aANGLE WITH S INSIDE,aACUTE ANGLE,aSPHERICAL ANGLE OPENING LEFT,dUP,aTURNED ANGLE",
  "aREVERSED ANGLE,aANGLE WITH UNDERBAR,aREVERSED ANGLE WITH UNDERBAR,aOBLIQUE ANGLE OPENING UP",
  "dDOWN,aMEASURED ANGLE WITH OPEN ARM ENDING IN ARROW POINTING UP AND RIGHT,lLEFT",
  "jDOWN AND RIGHT,lLEFT,jRIGHT AND UP,jLEFT AND UP,jRIGHT AND DOWN,jLEFT AND DOWN",
  "aREVERSED EMPTY SET,aEMPTY SET WITH OVERBAR,dSMALL CIRCLE ABOVE,dRIGHT ARROW ABOVE",
  "dLEFT ARROW ABOVE,aCIRCLE WITH HORIZONTAL BAR,aCIRCLED VERTICAL BAR,bPARALLEL,bREVERSE SOLIDUS",
  "bPERPENDICULAR,aCIRCLE DIVIDED BY HORIZONTAL BAR AND TOP HALF DIVIDED BY VERTICAL BAR",
  "bWITH SUPERIMPOSED X,aCIRCLED ANTICLOCKWISE-ROTATED DIVISION SIGN,aUP ARROW THROUGH CIRCLE",
  "aCIRCLED WHITE BULLET,bBULLET,bLESS-THAN,bGREATER-THAN,aCIRCLE WITH SMALL CIRCLE TO THE RIGHT",
  "cTWO HORIZONTAL STROKES TO THE RIGHT,aSQUARED RISING DIAGONAL SLASH,bFALLING DIAGONAL SLASH",
  "bASTERISK,bSMALL CIRCLE,bSQUARE,aTWO JOINED SQUARES,aTRIANGLE WITH DOT ABOVE,cUNDERBAR",
  "aS IN TRIANGLE,aTRIANGLE WITH SERIFS AT BOTTOM,aRIGHT TRIANGLE ABOVE LEFT TRIANGLE",
  "aLEFT TRIANGLE BESIDE VERTICAL BAR,aVERTICAL BAR BESIDE RIGHT TRIANGLE",
  "aBOWTIE WITH LEFT HALF BLACK,cRIGHT HALF BLACK,aBLACK BOWTIE,aTIMES WITH LEFT HALF BLACK",
  "cRIGHT HALF BLACK,aWHITE HOURGLASS,aBLACK HOURGLASS,aLEFT WIGGLY FENCE,aRIGHT WIGGLY FENCE",
  "aLEFT DOUBLE WIGGLY FENCE,aRIGHT DOUBLE WIGGLY FENCE,aINCOMPLETE INFINITY,aTIE OVER INFINITY",
  "aINFINITY NEGATED WITH VERTICAL BAR,aDOUBLE-ENDED MULTIMAP,aSQUARE WITH CONTOURED OUTLINE",
  "aINCREASES AS,aSHUFFLE PRODUCT,aEQUALS SIGN AND SLANTED PARALLEL,fWITH TILDE ABOVE",
  "aIDENTICAL TO AND SLANTED PARALLEL,aGLEICH STARK,aTHERMODYNAMIC",
  "aDOWN-POINTING TRIANGLE WITH LEFT HALF BLACK,dRIGHT HALF BLACK,aBLACK DIAMOND WITH DOWN ARROW",
  "bLOZENGE,aWHITE CIRCLE WITH DOWN ARROW,aBLACK CIRCLE WITH DOWN ARROW",
  "aERROR-BARRED WHITE SQUARE,bBLACK SQUARE,bWHITE DIAMOND,bBLACK DIAMOND,bWHITE CIRCLE",
  "bBLACK CIRCLE,aRULE-DELAYED,aREVERSE SOLIDUS OPERATOR,aSOLIDUS WITH OVERBAR",
  "aREVERSE SOLIDUS WITH HORIZONTAL STROKE,aBIG SOLIDUS,bREVERSE SOLIDUS,aDOUBLE PLUS",
  "aTRIPLE PLUS,aLEFT-POINTING CURVED ANGLE BRACKET,aRIGHT-POINTING CURVED ANGLE BRACKET,aTINY",
  "aMINY,aN-ARY CIRCLED DOT OPERATOR,cPLUS OPERATOR,cTIMES OPERATOR,bUNION OPERATOR WITH DOT",
  "ePLUS,bSQUARE INTERSECTION OPERATOR,cUNION OPERATOR,aTWO LOGICAL AND OPERATOR,cOR OPERATOR",
  "aN-ARY TIMES OPERATOR,aMODULO TWO SUM,aSUMMATION WITH INTEGRAL,aQUADRUPLE INTEGRAL OPERATOR",
  "aFINITE PART INTEGRAL,aINTEGRAL WITH DOUBLE STROKE,bAVERAGE WITH SLASH,aCIRCULATION FUNCTION",
  "aANTICLOCKWISE INTEGRATION,aLINE INTEGRATION WITH RECTANGULAR PATH AROUND POLE",
  "dSEMICIRCULAR PATH AROUND POLE,cNOT INCLUDING THE POLE,aINTEGRAL AROUND A POINT OPERATOR",
  "aQUATERNION INTEGRAL OPERATOR,aINTEGRAL WITH LEFTWARDS ARROW WITH HOOK,cTIMES SIGN",
  "cINTERSECTION,cUNION,cOVERBAR,cUNDERBAR,aJOIN,aLARGE LEFT TRIANGLE OPERATOR",
  "aZ NOTATION SCHEMA COMPOSITION,dPIPING,dPROJECTION,aPLUS SIGN WITH SMALL CIRCLE ABOVE",
  "dCIRCUMFLEX ACCENT ABOVE,dTILDE ABOVE,dDOT BELOW,dTILDE BELOW,dSUBSCRIPT TWO,dBLACK TRIANGLE",
  "aMINUS SIGN WITH COMMA ABOVE,dDOT BELOW,dFALLING DOTS,dRISING DOTS",
  "aPLUS SIGN IN LEFT HALF CIRCLE,dRIGHT HALF CIRCLE,aVECTOR OR CROSS PRODUCT",
  "aMULTIPLICATION SIGN WITH DOT ABOVE,dUNDERBAR,aSEMIDIRECT PRODUCT WITH BOTTOM CLOSED",
  "aSMASH PRODUCT,aMULTIPLICATION SIGN IN LEFT HALF CIRCLE,dRIGHT HALF CIRCLE",
  "aCIRCLED MULTIPLICATION SIGN WITH CIRCUMFLEX ACCENT,aMULTIPLICATION SIGN IN DOUBLE CIRCLE",
  "aCIRCLED DIVISION SIGN,aPLUS SIGN IN TRIANGLE,aMINUS SIGN IN TRIANGLE",
  "aMULTIPLICATION SIGN IN TRIANGLE,aINTERIOR PRODUCT,aRIGHTHAND INTERIOR PRODUCT",
  "aZ NOTATION RELATIONAL COMPOSITION,aAMALGAMATION OR COPRODUCT,aINTERSECTION WITH DOT",
  "aUNION WITH MINUS SIGN,cOVERBAR,aINTERSECTION WITH OVERBAR,cLOGICAL AND,aUNION WITH LOGICAL OR",
  "bABOVE INTERSECTION,aINTERSECTION ABOVE UNION,aUNION ABOVE BAR ABOVE INTERSECTION",
  "aINTERSECTION ABOVE BAR ABOVE UNION,aUNION BESIDE AND JOINED WITH UNION",
  "aINTERSECTION BESIDE AND JOINED WITH INTERSECTION,aCLOSED UNION WITH SERIFS",
  "bINTERSECTION WITH SERIFS,aDOUBLE SQUARE INTERSECTION,cUNION",
  "aCLOSED UNION WITH SERIFS AND SMASH PRODUCT,aLOGICAL AND WITH DOT ABOVE,bOR WITH DOT ABOVE",
  "aDOUBLE LOGICAL AND,cOR,aTWO INTERSECTING LOGICAL AND,dOR,aSLOPING LARGE OR,cAND",
  "aLOGICAL OR OVERLAPPING LOGICAL AND,bAND WITH MIDDLE STEM,bOR WITH MIDDLE STEM",
  "bAND WITH HORIZONTAL DASH,bOR WITH HORIZONTAL DASH,bAND WITH DOUBLE OVERBAR,dUNDERBAR",
  "dDOUBLE UNDERBAR,aSMALL VEE WITH UNDERBAR,aLOGICAL OR WITH DOUBLE OVERBAR,eUNDERBAR",
  "aZ NOTATION DOMAIN ANTIRESTRICTION,cRANGE ANTIRESTRICTION,aEQUALS SIGN WITH DOT BELOW",
  "aIDENTICAL WITH DOT ABOVE,aTRIPLE HORIZONTAL BAR WITH DOUBLE VERTICAL STROKE",
  "eTRIPLE VERTICAL STROKE,aTILDE OPERATOR WITH DOT ABOVE,dRISING DOTS,aSIMILAR MINUS SIMILAR",
  "aCONGRUENT WITH DOT ABOVE,aEQUALS WITH ASTERISK,aALMOST EQUAL TO WITH CIRCUMFLEX ACCENT",
  "aAPPROXIMATELY EQUAL OR EQUAL TO,aEQUALS SIGN ABOVE PLUS SIGN,aPLUS SIGN ABOVE EQUALS SIGN",
  "aEQUALS SIGN ABOVE TILDE OPERATOR,aDOUBLE COLON EQUAL,aTWO CONSECUTIVE EQUALS SIGNS",
  "aTHREE CONSECUTIVE EQUALS SIGNS,aEQUALS SIGN WITH TWO DOTS ABOVE AND TWO DOTS BELOW",
  "aEQUIVALENT WITH FOUR DOTS ABOVE,aLESS-THAN WITH CIRCLE INSIDE",
  "aGREATER-THAN WITH CIRCLE INSIDE,aLESS-THAN WITH QUESTION MARK ABOVE",
  "aGREATER-THAN WITH QUESTION MARK ABOVE,aLESS-THAN OR SLANTED EQUAL TO",
  "aGREATER-THAN OR SLANTED EQUAL TO,aLESS-THAN OR SLANTED EQUAL TO WITH DOT INSIDE",
  "aGREATER-THAN OR SLANTED EQUAL TO WITH DOT INSIDE",
  "aLESS-THAN OR SLANTED EQUAL TO WITH DOT ABOVE,aGREATER-THAN OR SLANTED EQUAL TO WITH DOT ABOVE",
  "aLESS-THAN OR SLANTED EQUAL TO WITH DOT ABOVE RIGHT",
  "aGREATER-THAN OR SLANTED EQUAL TO WITH DOT ABOVE LEFT,aLESS-THAN OR APPROXIMATE",
  "aGREATER-THAN OR APPROXIMATE,aLESS-THAN AND SINGLE-LINE NOT EQUAL TO",
  "aGREATER-THAN AND SINGLE-LINE NOT EQUAL TO,aLESS-THAN AND NOT APPROXIMATE",
  "aGREATER-THAN AND NOT APPROXIMATE,aLESS-THAN ABOVE DOUBLE-LINE EQUAL ABOVE GREATER-THAN",
  "aGREATER-THAN ABOVE DOUBLE-LINE EQUAL ABOVE LESS-THAN,aLESS-THAN ABOVE SIMILAR OR EQUAL",
  "aGREATER-THAN ABOVE SIMILAR OR EQUAL,aLESS-THAN ABOVE SIMILAR ABOVE GREATER-THAN",
  "aGREATER-THAN ABOVE SIMILAR ABOVE LESS-THAN",
  "aLESS-THAN ABOVE GREATER-THAN ABOVE DOUBLE-LINE EQUAL",
  "aGREATER-THAN ABOVE LESS-THAN ABOVE DOUBLE-LINE EQUAL",
  "aLESS-THAN ABOVE SLANTED EQUAL ABOVE GREATER-THAN ABOVE SLANTED EQUAL",
  "aGREATER-THAN ABOVE SLANTED EQUAL ABOVE LESS-THAN ABOVE SLANTED EQUAL",
  "aSLANTED EQUAL TO OR LESS-THAN,eGREATER-THAN,eLESS-THAN WITH DOT INSIDE",
  "eGREATER-THAN WITH DOT INSIDE,aDOUBLE-LINE EQUAL TO OR LESS-THAN,eGREATER-THAN",
  "bSLANTED EQUAL TO OR LESS-THAN,fGREATER-THAN,aSIMILAR OR LESS-THAN,cGREATER-THAN",
  "bABOVE LESS-THAN ABOVE EQUALS SIGN,cGREATER-THAN ABOVE EQUALS SIGN,aDOUBLE NESTED LESS-THAN",
  "cGREATER-THAN,cLESS-THAN WITH UNDERBAR,aGREATER-THAN OVERLAPPING LESS-THAN,bBESIDE LESS-THAN",
  "aLESS-THAN CLOSED BY CURVE,aGREATER-THAN CLOSED BY CURVE",
  "aLESS-THAN CLOSED BY CURVE ABOVE SLANTED EQUAL",
  "aGREATER-THAN CLOSED BY CURVE ABOVE SLANTED EQUAL,aSMALLER THAN,aLARGER THAN",
  "aSMALLER THAN OR EQUAL TO,aLARGER THAN OR EQUAL TO,aEQUALS SIGN WITH BUMPY ABOVE",
  "aPRECEDES ABOVE SINGLE-LINE EQUALS SIGN,aSUCCEEDS ABOVE SINGLE-LINE EQUALS SIGN",
  "aPRECEDES ABOVE SINGLE-LINE NOT EQUAL TO,aSUCCEEDS ABOVE SINGLE-LINE NOT EQUAL TO",
  "aPRECEDES ABOVE EQUALS SIGN,aSUCCEEDS ABOVE EQUALS SIGN,aPRECEDES ABOVE NOT EQUAL TO",
  "aSUCCEEDS ABOVE NOT EQUAL TO,aPRECEDES ABOVE ALMOST EQUAL TO,aSUCCEEDS ABOVE ALMOST EQUAL TO",
  "aPRECEDES ABOVE NOT ALMOST EQUAL TO,aSUCCEEDS ABOVE NOT ALMOST EQUAL TO,aDOUBLE PRECEDES",
  "bSUCCEEDS,aSUBSET WITH DOT,aSUPERSET WITH DOT,aSUBSET WITH PLUS SIGN BELOW",
  "aSUPERSET WITH PLUS SIGN BELOW,aSUBSET WITH MULTIPLICATION SIGN BELOW",
  "aSUPERSET WITH MULTIPLICATION SIGN BELOW,aSUBSET OF OR EQUAL TO WITH DOT ABOVE",
  "aSUPERSET OF OR EQUAL TO WITH DOT ABOVE,aSUBSET OF ABOVE EQUALS SIGN",
  "aSUPERSET OF ABOVE EQUALS SIGN,aSUBSET OF ABOVE TILDE OPERATOR",
  "aSUPERSET OF ABOVE TILDE OPERATOR,aSUBSET OF ABOVE ALMOST EQUAL TO",
  "aSUPERSET OF ABOVE ALMOST EQUAL TO,aSUBSET OF ABOVE NOT EQUAL TO",
  "aSUPERSET OF ABOVE NOT EQUAL TO,aSQUARE LEFT OPEN BOX OPERATOR,bRIGHT OPEN BOX OPERATOR",
  "aCLOSED SUBSET,bSUPERSET,bSUBSET OR EQUAL TO,bSUPERSET OR EQUAL TO,aSUBSET ABOVE SUPERSET",
  "aSUPERSET ABOVE SUBSET,aSUBSET ABOVE SUBSET,aSUPERSET ABOVE SUPERSET,bBESIDE SUBSET",
  "cAND JOINED BY DASH WITH SUBSET,aELEMENT OF OPENING DOWNWARDS,aPITCHFORK WITH TEE TOP",
  "aTRANSVERSAL INTERSECTION,aFORKING,aNONFORKING,aSHORT LEFT TACK,bDOWN TACK,bUP TACK",
  "aPERPENDICULAR WITH S,aVERTICAL BAR TRIPLE RIGHT TURNSTILE,aDOUBLE VERTICAL BAR LEFT TURNSTILE",
  "aVERTICAL BAR DOUBLE LEFT TURNSTILE,aDOUBLE VERTICAL BAR DOUBLE LEFT TURNSTILE",
  "aLONG DASH FROM LEFT MEMBER OF DOUBLE VERTICAL,aSHORT DOWN TACK WITH OVERBAR",
  "bUP TACK WITH UNDERBAR,dABOVE SHORT DOWN TACK,aDOUBLE DOWN TACK,bUP TACK,bSTROKE NOT SIGN",
  "aREVERSED DOUBLE STROKE NOT SIGN,aDOES NOT DIVIDE WITH REVERSED NEGATION SLASH",
  "aVERTICAL LINE WITH CIRCLE ABOVE,eBELOW,aDOWN TACK WITH CIRCLE BELOW",
  "aPARALLEL WITH HORIZONTAL STROKE,cTILDE OPERATOR,aTRIPLE VERTICAL BAR BINARY RELATION",
  "dWITH HORIZONTAL STROKE,bCOLON OPERATOR,bNESTED LESS-THAN,cGREATER-THAN",
  "aDOUBLE-LINE SLANTED LESS-THAN OR EQUAL TO,cGREATER-THAN OR EQUAL TO",
  "aTRIPLE SOLIDUS BINARY RELATION,aLARGE TRIPLE VERTICAL BAR OPERATOR,aDOUBLE SOLIDUS OPERATOR",
  "aWHITE VERTICAL BAR,aN-ARY WHITE VERTICAL BAR,aNORTH EAST WHITE ARROW,bWEST WHITE ARROW",
  "aSOUTH EAST WHITE ARROW,bWEST WHITE ARROW,aLEFT RIGHT WHITE ARROW,aLEFTWARDS BLACK ARROW",
  "aUPWARDS BLACK ARROW,aDOWNWARDS BLACK ARROW,aNORTH EAST BLACK ARROW,bWEST BLACK ARROW",
  "aSOUTH EAST BLACK ARROW,bWEST BLACK ARROW,aLEFT RIGHT BLACK ARROW,aUP DOWN BLACK ARROW",
  "aRIGHTWARDS ARROW WITH TIP DOWNWARDS,eUPWARDS,aLEFTWARDS ARROW WITH TIP DOWNWARDS,eUPWARDS",
  "aSQUARE WITH TOP HALF BLACK,cBOTTOM HALF BLACK,cUPPER RIGHT DIAGONAL HALF BLACK",
  "cLOWER LEFT DIAGONAL HALF BLACK,aDIAMOND WITH LEFT HALF BLACK,cRIGHT HALF BLACK",
  "cTOP HALF BLACK,cBOTTOM HALF BLACK,aDOTTED SQUARE,aBLACK LARGE SQUARE,aWHITE LARGE SQUARE",
  "aBLACK VERY SMALL SQUARE,aWHITE VERY SMALL SQUARE,aBLACK PENTAGON,aWHITE PENTAGON,bHEXAGON",
  "aBLACK HEXAGON,aHORIZONTAL BLACK HEXAGON,aBLACK LARGE CIRCLE,bMEDIUM DIAMOND",
  "aWHITE MEDIUM DIAMOND,aBLACK MEDIUM LOZENGE,aWHITE MEDIUM LOZENGE,aBLACK SMALL DIAMOND",
  "cLOZENGE,aWHITE SMALL LOZENGE,aBLACK HORIZONTAL ELLIPSE,aWHITE HORIZONTAL ELLIPSE",
  "aBLACK VERTICAL ELLIPSE,aWHITE VERTICAL ELLIPSE,aLEFT ARROW WITH SMALL CIRCLE",
  "aTHREE LEFTWARDS ARROWS,aLEFT ARROW WITH CIRCLED PLUS,aLONG LEFTWARDS SQUIGGLE ARROW",
  "aLEFTWARDS TWO-HEADED ARROW WITH VERTICAL STROKE,eDOUBLE VERTICAL STROKE,dFROM BAR",
  "cTRIPLE DASH ARROW,bARROW WITH DOTTED STEM,dTAIL WITH VERTICAL STROKE,fDOUBLE VERTICAL STROKE",
  "bTWO-HEADED ARROW WITH TAIL,fWITH VERTICAL STROKE,gDOUBLE VERTICAL STROKE,bARROW THROUGH X",
  "aWAVE ARROW POINTING DIRECTLY LEFT,aEQUALS SIGN ABOVE LEFTWARDS ARROW",
  "aREVERSE TILDE OPERATOR ABOVE LEFTWARDS ARROW,aLEFTWARDS ARROW ABOVE REVERSE ALMOST EQUAL TO",
  "aRIGHTWARDS ARROW THROUGH GREATER-THAN,dSUPERSET,aLEFTWARDS QUADRUPLE ARROW",
  "aRIGHTWARDS QUADRUPLE ARROW,aREVERSE TILDE OPERATOR ABOVE RIGHTWARDS ARROW",
  "aRIGHTWARDS ARROW ABOVE REVERSE ALMOST EQUAL TO,aTILDE OPERATOR ABOVE LEFTWARDS ARROW",
  "aLEFTWARDS ARROW ABOVE ALMOST EQUAL TO,dREVERSE TILDE OPERATOR",
  "aRIGHTWARDS ARROW ABOVE REVERSE TILDE OPERATOR,aDOWNWARDS TRIANGLE-HEADED ZIGZAG ARROW",
  "aSHORT SLANTED NORTH ARROW,bBACKSLANTED SOUTH ARROW,aWHITE MEDIUM STAR,aBLACK SMALL STAR",
  "aWHITE SMALL STAR,aBLACK RIGHT-POINTING PENTAGON,aWHITE RIGHT-POINTING PENTAGON",
  "aHEAVY LARGE CIRCLE,bOVAL WITH OVAL INSIDE,bCIRCLE WITH CIRCLE INSIDE,bCIRCLE,bCIRCLED SALTIRE",
  "aSLANTED NORTH ARROW WITH HOOKED HEAD,aBACKSLANTED SOUTH ARROW WITH HOOKED TAIL",
  "aSLANTED NORTH ARROW WITH HORIZONTAL TAIL,aBACKSLANTED SOUTH ARROW WITH HORIZONTAL TAIL",
  "aBENT ARROW POINTING DOWNWARDS THEN NORTH EAST",
  "aSHORT BENT ARROW POINTING DOWNWARDS THEN NORTH EAST,aLEFTWARDS TRIANGLE-HEADED ARROW",
  "aUPWARDS TRIANGLE-HEADED ARROW,aRIGHTWARDS TRIANGLE-HEADED ARROW",
  "aDOWNWARDS TRIANGLE-HEADED ARROW,aLEFT RIGHT TRIANGLE-HEADED ARROW",
  "aUP DOWN TRIANGLE-HEADED ARROW,aNORTH WEST TRIANGLE-HEADED ARROW,bEAST TRIANGLE-HEADED ARROW",
  "aSOUTH EAST TRIANGLE-HEADED ARROW,bWEST TRIANGLE-HEADED ARROW",
  "aLEFTWARDS TRIANGLE-HEADED DASHED ARROW,aUPWARDS TRIANGLE-HEADED DASHED ARROW",
  "aRIGHTWARDS TRIANGLE-HEADED DASHED ARROW,aDOWNWARDS TRIANGLE-HEADED DASHED ARROW",
  "aCLOCKWISE TRIANGLE-HEADED OPEN CIRCLE ARROW,aANTICLOCKWISE TRIANGLE-HEADED OPEN CIRCLE ARROW",
  "aLEFTWARDS TRIANGLE-HEADED ARROW TO BAR,aUPWARDS TRIANGLE-HEADED ARROW TO BAR",
  "aRIGHTWARDS TRIANGLE-HEADED ARROW TO BAR,aDOWNWARDS TRIANGLE-HEADED ARROW TO BAR",
  "2b76:aNORTH WEST TRIANGLE-HEADED ARROW TO BAR,bEAST TRIANGLE-HEADED ARROW TO BAR",
  "aSOUTH EAST TRIANGLE-HEADED ARROW TO BAR,bWEST TRIANGLE-HEADED ARROW TO BAR",
  "aLEFTWARDS TRIANGLE-HEADED ARROW WITH DOUBLE HORIZONTAL STROKE",
  "aUPWARDS TRIANGLE-HEADED ARROW WITH DOUBLE HORIZONTAL STROKE",
  "aRIGHTWARDS TRIANGLE-HEADED ARROW WITH DOUBLE HORIZONTAL STROKE",
  "aDOWNWARDS TRIANGLE-HEADED ARROW WITH DOUBLE HORIZONTAL STROKE,aHORIZONTAL TAB KEY",
  "aVERTICAL TAB KEY,aLEFTWARDS TRIANGLE-HEADED ARROW OVER RIGHTWARDS TRIANGLE-HEADED ARROW",
  "aUPWARDS TRIANGLE-HEADED ARROW LEFTWARDS OF DOWNWARDS TRIANGLE-HEADED ARROW",
  "aRIGHTWARDS TRIANGLE-HEADED ARROW OVER LEFTWARDS TRIANGLE-HEADED ARROW",
  "aDOWNWARDS TRIANGLE-HEADED ARROW LEFTWARDS OF UPWARDS TRIANGLE-HEADED ARROW",
  "aLEFTWARDS TRIANGLE-HEADED PAIRED ARROWS,aUPWARDS TRIANGLE-HEADED PAIRED ARROWS",
  "aRIGHTWARDS TRIANGLE-HEADED PAIRED ARROWS,aDOWNWARDS TRIANGLE-HEADED PAIRED ARROWS",
  "aLEFTWARDS BLACK CIRCLED WHITE ARROW,aUPWARDS BLACK CIRCLED WHITE ARROW",
  "aRIGHTWARDS BLACK CIRCLED WHITE ARROW,aDOWNWARDS BLACK CIRCLED WHITE ARROW",
  "aANTICLOCKWISE TRIANGLE-HEADED RIGHT U-SHAPED ARROW,cBOTTOM U-SHAPED ARROW",
  "cLEFT U-SHAPED ARROW,cTOP U-SHAPED ARROW,aRETURN LEFT,bRIGHT,aNEWLINE LEFT,bRIGHT",
  "aFOUR CORNER ARROWS CIRCLING ANTICLOCKWISE,aRIGHTWARDS BLACK ARROW",
  "2b97:aSYMBOL FOR TYPE A ELECTRONICS,aTHREE-D TOP-LIGHTED LEFTWARDS EQUILATERAL ARROWHEAD",
  "bRIGHT-LIGHTED UPWARDS EQUILATERAL ARROWHEAD,bTOP-LIGHTED RIGHTWARDS EQUILATERAL ARROWHEAD",
  "bLEFT-LIGHTED DOWNWARDS EQUILATERAL ARROWHEAD,aBLACK LEFTWARDS EQUILATERAL ARROWHEAD",
  "bUPWARDS EQUILATERAL ARROWHEAD,bRIGHTWARDS EQUILATERAL ARROWHEAD",
  "bDOWNWARDS EQUILATERAL ARROWHEAD,aDOWNWARDS TRIANGLE-HEADED ARROW WITH LONG TIP LEFTWARDS",
  "gRIGHTWARDS,aUPWARDS TRIANGLE-HEADED ARROW WITH LONG TIP LEFTWARDS,gRIGHTWARDS",
  "aLEFTWARDS TRIANGLE-HEADED ARROW WITH LONG TIP UPWARDS",
  "aRIGHTWARDS TRIANGLE-HEADED ARROW WITH LONG TIP UPWARDS",
  "aLEFTWARDS TRIANGLE-HEADED ARROW WITH LONG TIP DOWNWARDS",
  "aRIGHTWARDS TRIANGLE-HEADED ARROW WITH LONG TIP DOWNWARDS",
  "aBLACK CURVED DOWNWARDS AND LEFTWARDS ARROW,eRIGHTWARDS ARROW,cUPWARDS AND LEFTWARDS ARROW",
  "eRIGHTWARDS ARROW,cLEFTWARDS AND UPWARDS ARROW,cRIGHTWARDS AND UPWARDS ARROW",
  "cLEFTWARDS AND DOWNWARDS ARROW,cRIGHTWARDS AND DOWNWARDS ARROW,aRIBBON ARROW DOWN LEFT,dRIGHT",
  "cUP LEFT,dRIGHT,cLEFT UP,cRIGHT UP,cLEFT DOWN,cRIGHT DOWN",
  "aUPWARDS WHITE ARROW FROM BAR WITH HORIZONTAL BAR,aUP ARROWHEAD IN A RECTANGLE BOX",
  "aOVERLAPPING WHITE SQUARES,cAND BLACK SQUARES,bBLACK SQUARES,aBALLOT BOX WITH LIGHT X",
  "aCIRCLED X,bBOLD X,aBLACK SQUARE CENTRED,bDIAMOND CENTRED,aTURNED BLACK PENTAGON",
  "aHORIZONTAL BLACK OCTAGON,aBLACK OCTAGON,bMEDIUM UP-POINTING TRIANGLE CENTRED",
  "cDOWN-POINTING TRIANGLE CENTRED,cLEFT-POINTING TRIANGLE CENTRED",
  "cRIGHT-POINTING TRIANGLE CENTRED,aNEPTUNE FORM TWO,aTOP HALF BLACK CIRCLE",
  "aBOTTOM HALF BLACK CIRCLE,aLIGHT FOUR POINTED BLACK CUSP",
  "aROTATED LIGHT FOUR POINTED BLACK CUSP,aWHITE FOUR POINTED CUSP",
  "aROTATED WHITE FOUR POINTED CUSP,aSQUARE POSITION INDICATOR,aUNCERTAINTY SIGN,aGROUP MARK",
  "aPLUTO FORM TWO,cTHREE,cFOUR,cFIVE,aTRANSPLUTO,aPROSERPINA,aASTRAEA,aHYGIEA,aPHOLUS,aNESSUS",
  "aWHITE MOON SELENA,aBLACK DIAMOND ON CROSS,aTRUE LIGHT MOON ARTA,aCUPIDO,aHADES,aZEUS,aKRONOS",
  "aAPOLLON,aADMETOS,aVULCANUS,aPOSEIDON,aLEFT HALF BLACK STAR,aRIGHT HALF BLACK STAR",
  "aSTAR WITH LEFT HALF BLACK,cRIGHT HALF BLACK",
  "aLEFTWARDS TWO-HEADED ARROW WITH TRIANGLE ARROWHEADS",
  "aUPWARDS TWO-HEADED ARROW WITH TRIANGLE ARROWHEADS",
  "aRIGHTWARDS TWO-HEADED ARROW WITH TRIANGLE ARROWHEADS",
  "aDOWNWARDS TWO-HEADED ARROW WITH TRIANGLE ARROWHEADS,aERIS FORM ONE,cTWO,aSEDNA",
  "aRUSSIAN ASTROLOGICAL SYMBOL VIGINTILE,dNOVILE,dQUINTILE,dBINOVILE,dSENTAGON,dTREDECILE",
  "aEQUALS SIGN WITH INFINITY BELOW,aUNITED SYMBOL,aSEPARATED SYMBOL,aDOUBLED SYMBOL",
  "aPASSED SYMBOL,aREVERSED RIGHT ANGLE,aHELLSCHREIBER PAUSE SYMBOL"]

/-- Names from the mathematical letters to the Arabic ones among them. -/
def mathematicalLetterNames : List String := [
  "1d400:aMATHEMATICAL BOLD CAPITAL A,dB,dC,dD,dE,dF,dG,dH,dI,dJ,dK,dL,dM,dN,dO,dP,dQ,dR,dS,dT,dU",
  "dV,dW,dX,dY,dZ,cSMALL A,dB,dC,dD,dE,dF,dG,dH,dI,dJ,dK,dL,dM,dN,dO,dP,dQ,dR,dS,dT,dU,dV,dW,dX",
  "dY,dZ,bITALIC CAPITAL A,dB,dC,dD,dE,dF,dG,dH,dI,dJ,dK,dL,dM,dN,dO,dP,dQ,dR,dS,dT,dU,dV,dW,dX",
  "dY,dZ,cSMALL A,dB,dC,dD,dE,dF,dG,1d456:dI,dJ,dK,dL,dM,dN,dO,dP,dQ,dR,dS,dT,dU,dV,dW,dX,dY,dZ",
  "bBOLD ITALIC CAPITAL A,eB,eC,eD,eE,eF,eG,eH,eI,eJ,eK,eL,eM,eN,eO,eP,eQ,eR,eS,eT,eU,eV,eW,eX,eY",
  "eZ,dSMALL A,eB,eC,eD,eE,eF,eG,eH,eI,eJ,eK,eL,eM,eN,eO,eP,eQ,eR,eS,eT,eU,eV,eW,eX,eY,eZ",
  "bSCRIPT CAPITAL A,1d49e:dC,dD,1d4a2:dG,1d4a5:dJ,dK,1d4a9:dN,dO,dP,dQ,1d4ae:dS,dT,dU,dV,dW,dX",
  "dY,dZ,cSMALL A,dB,dC,dD,1d4bb:dF,1d4bd:dH,dI,dJ,dK,dL,dM,dN,1d4c5:dP,dQ,dR,dS,dT,dU,dV,dW,dX",
  "dY,dZ,bBOLD SCRIPT CAPITAL A,eB,eC,eD,eE,eF,eG,eH,eI,eJ,eK,eL,eM,eN,eO,eP,eQ,eR,eS,eT,eU,eV,eW",
  "eX,eY,eZ,dSMALL A,eB,eC,eD,eE,eF,eG,eH,eI,eJ,eK,eL,eM,eN,eO,eP,eQ,eR,eS,eT,eU,eV,eW,eX,eY,eZ",
  "bFRAKTUR CAPITAL A,dB,1d507:dD,dE,dF,dG,1d50d:dJ,dK,dL,dM,dN,dO,dP,dQ,1d516:dS,dT,dU,dV,dW,dX",
  "dY,1d51e:cSMALL A,dB,dC,dD,dE,dF,dG,dH,dI,dJ,dK,dL,dM,dN,dO,dP,dQ,dR,dS,dT,dU,dV,dW,dX,dY,dZ",
  "bDOUBLE-STRUCK CAPITAL A,dB,1d53b:dD,dE,dF,dG,1d540:dI,dJ,dK,dL,dM,1d546:dO,1d54a:dS,dT,dU,dV",
  "dW,dX,dY,1d552:cSMALL A,dB,dC,dD,dE,dF,dG,dH,dI,dJ,dK,dL,dM,dN,dO,dP,dQ,dR,dS,dT,dU,dV,dW,dX",
  "dY,dZ,bBOLD FRAKTUR CAPITAL A,eB,eC,eD,eE,eF,eG,eH,eI,eJ,eK,eL,eM,eN,eO,eP,eQ,eR,eS,eT,eU,eV",
  "eW,eX,eY,eZ,dSMALL A,eB,eC,eD,eE,eF,eG,eH,eI,eJ,eK,eL,eM,eN,eO,eP,eQ,eR,eS,eT,eU,eV,eW,eX,eY",
  "eZ,bSANS-SERIF CAPITAL A,dB,dC,dD,dE,dF,dG,dH,dI,dJ,dK,dL,dM,dN,dO,dP,dQ,dR,dS,dT,dU,dV,dW,dX",
  "dY,dZ,cSMALL A,dB,dC,dD,dE,dF,dG,dH,dI,dJ,dK,dL,dM,dN,dO,dP,dQ,dR,dS,dT,dU,dV,dW,dX,dY,dZ",
  "cBOLD CAPITAL A,eB,eC,eD,eE,eF,eG,eH,eI,eJ,eK,eL,eM,eN,eO,eP,eQ,eR,eS,eT,eU,eV,eW,eX,eY,eZ",
  "dSMALL A,eB,eC,eD,eE,eF,eG,eH,eI,eJ,eK,eL,eM,eN,eO,eP,eQ,eR,eS,eT,eU,eV,eW,eX,eY,eZ",
  "cITALIC CAPITAL A,eB,eC,eD,eE,eF,eG,eH,eI,eJ,eK,eL,eM,eN,eO,eP,eQ,eR,eS,eT,eU,eV,eW,eX,eY,eZ",
  "dSMALL A,eB,eC,eD,eE,eF,eG,eH,eI,eJ,eK,eL,eM,eN,eO,eP,eQ,eR,eS,eT,eU,eV,eW,eX,eY,eZ",
  "cBOLD ITALIC CAPITAL A,fB,fC,fD,fE,fF,fG,fH,fI,fJ,fK,fL,fM,fN,fO,fP,fQ,fR,fS,fT,fU,fV,fW,fX,fY",
  "fZ,eSMALL A,fB,fC,fD,fE,fF,fG,fH,fI,fJ,fK,fL,fM,fN,fO,fP,fQ,fR,fS,fT,fU,fV,fW,fX,fY,fZ",
  "bMONOSPACE CAPITAL A,dB,dC,dD,dE,dF,dG,dH,dI,dJ,dK,dL,dM,dN,dO,dP,dQ,dR,dS,dT,dU,dV,dW,dX,dY",
  "dZ,cSMALL A,dB,dC,dD,dE,dF,dG,dH,dI,dJ,dK,dL,dM,dN,dO,dP,dQ,dR,dS,dT,dU,dV,dW,dX,dY,dZ",
  "bITALIC SMALL DOTLESS I,eJ,1d6a8:bBOLD CAPITAL ALPHA,dBETA,dGAMMA,dDELTA,dEPSILON,dZETA,dETA",
  "dTHETA,dIOTA,dKAPPA,dLAMDA,dMU,dNU,dXI,dOMICRON,dPI,dRHO,dTHETA SYMBOL,dSIGMA,dTAU,dUPSILON",
  "dPHI,dCHI,dPSI,dOMEGA,cNABLA,cSMALL ALPHA,dBETA,dGAMMA,dDELTA,dEPSILON,dZETA,dETA,dTHETA,dIOTA",
  "dKAPPA,dLAMDA,dMU,dNU,dXI,dOMICRON,dPI,dRHO,dFINAL SIGMA,dSIGMA,dTAU,dUPSILON,dPHI,dCHI,dPSI",
  "dOMEGA,cPARTIAL DIFFERENTIAL,cEPSILON SYMBOL,cTHETA SYMBOL,cKAPPA SYMBOL,cPHI SYMBOL",
  "cRHO SYMBOL,cPI SYMBOL,bITALIC CAPITAL ALPHA,dBETA,dGAMMA,dDELTA,dEPSILON,dZETA,dETA,dTHETA",
  "dIOTA,dKAPPA,dLAMDA,dMU,dNU,dXI,dOMICRON,dPI,dRHO,dTHETA SYMBOL,dSIGMA,dTAU,dUPSILON,dPHI,dCHI",
  "dPSI,dOMEGA,cNABLA,cSMALL ALPHA,dBETA,dGAMMA,dDELTA,dEPSILON,dZETA,dETA,dTHETA,dIOTA,dKAPPA",
  "dLAMDA,dMU,dNU,dXI,dOMICRON,dPI,dRHO,dFINAL SIGMA,dSIGMA,dTAU,dUPSILON,dPHI,dCHI,dPSI,dOMEGA",
  "cPARTIAL DIFFERENTIAL,cEPSILON SYMBOL,cTHETA SYMBOL,cKAPPA SYMBOL,cPHI SYMBOL,cRHO SYMBOL",
  "cPI SYMBOL,bBOLD ITALIC CAPITAL ALPHA,eBETA,eGAMMA,eDELTA,eEPSILON,eZETA,eETA,eTHETA,eIOTA",
  "eKAPPA,eLAMDA,eMU,eNU,eXI,eOMICRON,ePI,eRHO,eTHETA SYMBOL,eSIGMA,eTAU,eUPSILON,ePHI,eCHI,ePSI",
  "eOMEGA,dNABLA,dSMALL ALPHA,eBETA,eGAMMA,eDELTA,eEPSILON,eZETA,eETA,eTHETA,eIOTA,eKAPPA,eLAMDA",
  "eMU,eNU,eXI,eOMICRON,ePI,eRHO,eFINAL SIGMA,eSIGMA,eTAU,eUPSILON,ePHI,eCHI,ePSI,eOMEGA",
  "dPARTIAL DIFFERENTIAL,dEPSILON SYMBOL,dTHETA SYMBOL,dKAPPA SYMBOL,dPHI SYMBOL,dRHO SYMBOL",
  "dPI SYMBOL,bSANS-SERIF BOLD CAPITAL ALPHA,eBETA,eGAMMA,eDELTA,eEPSILON,eZETA,eETA,eTHETA,eIOTA",
  "eKAPPA,eLAMDA,eMU,eNU,eXI,eOMICRON,ePI,eRHO,eTHETA SYMBOL,eSIGMA,eTAU,eUPSILON,ePHI,eCHI,ePSI",
  "eOMEGA,dNABLA,dSMALL ALPHA,eBETA,eGAMMA,eDELTA,eEPSILON,eZETA,eETA,eTHETA,eIOTA,eKAPPA,eLAMDA",
  "eMU,eNU,eXI,eOMICRON,ePI,eRHO,eFINAL SIGMA,eSIGMA,eTAU,eUPSILON,ePHI,eCHI,ePSI,eOMEGA",
  "dPARTIAL DIFFERENTIAL,dEPSILON SYMBOL,dTHETA SYMBOL,dKAPPA SYMBOL,dPHI SYMBOL,dRHO SYMBOL",
  "dPI SYMBOL,dITALIC CAPITAL ALPHA,fBETA,fGAMMA,fDELTA,fEPSILON,fZETA,fETA,fTHETA,fIOTA,fKAPPA",
  "fLAMDA,fMU,fNU,fXI,fOMICRON,fPI,fRHO,fTHETA SYMBOL,fSIGMA,fTAU,fUPSILON,fPHI,fCHI,fPSI,fOMEGA",
  "eNABLA,eSMALL ALPHA,fBETA,fGAMMA,fDELTA,fEPSILON,fZETA,fETA,fTHETA,fIOTA,fKAPPA,fLAMDA,fMU,fNU",
  "fXI,fOMICRON,fPI,fRHO,fFINAL SIGMA,fSIGMA,fTAU,fUPSILON,fPHI,fCHI,fPSI,fOMEGA",
  "ePARTIAL DIFFERENTIAL,eEPSILON SYMBOL,eTHETA SYMBOL,eKAPPA SYMBOL,ePHI SYMBOL,eRHO SYMBOL",
  "ePI SYMBOL,bBOLD CAPITAL DIGAMMA,cSMALL DIGAMMA,1d7ce:cDIGIT ZERO,dONE,dTWO,dTHREE,dFOUR,dFIVE",
  "dSIX,dSEVEN,dEIGHT,dNINE,bDOUBLE-STRUCK DIGIT ZERO,dONE,dTWO,dTHREE,dFOUR,dFIVE,dSIX,dSEVEN",
  "dEIGHT,dNINE,bSANS-SERIF DIGIT ZERO,dONE,dTWO,dTHREE,dFOUR,dFIVE,dSIX,dSEVEN,dEIGHT,dNINE",
  "cBOLD DIGIT ZERO,eONE,eTWO,eTHREE,eFOUR,eFIVE,eSIX,eSEVEN,eEIGHT,eNINE,bMONOSPACE DIGIT ZERO",
  "dONE,dTWO,dTHREE,dFOUR,dFIVE,dSIX,dSEVEN,dEIGHT,dNINE,aSIGNWRITING HAND-FIST INDEX",
  "bHAND-CIRCLE INDEX,bHAND-CUP INDEX,bHAND-OVAL INDEX,bHAND-HINGE INDEX,bHAND-ANGLE INDEX",
  "bHAND-FIST INDEX BENT,bHAND-CIRCLE INDEX BENT,bHAND-FIST THUMB UNDER INDEX BENT",
  "cINDEX RAISED KNUCKLE,dCUPPED,dHINGED,eLOW,bHAND-CIRCLE INDEX HINGE,bHAND-FIST INDEX MIDDLE",
  "bHAND-CIRCLE INDEX MIDDLE,bHAND-FIST INDEX MIDDLE BENT,eRAISED KNUCKLES,eHINGED",
  "dUP MIDDLE HINGED,dHINGED MIDDLE UP,dMIDDLE CONJOINED,fINDEX BENT,fMIDDLE BENT,fCUPPED,fHINGED",
  "eCROSSED,bHAND-CIRCLE INDEX MIDDLE CROSSED,bHAND-FIST MIDDLE BENT OVER INDEX",
  "cINDEX BENT OVER MIDDLE,dMIDDLE THUMB,bHAND-CIRCLE INDEX MIDDLE THUMB",
  "bHAND-FIST INDEX MIDDLE STRAIGHT THUMB BENT,eBENT THUMB STRAIGHT,eTHUMB BENT",
  "eHINGED SPREAD THUMB SIDE,dUP MIDDLE HINGED THUMB SIDE,hCONJOINED,dHINGED MIDDLE UP THUMB SIDE",
  "dMIDDLE UP SPREAD THUMB FORWARD,eTHUMB CUPPED,fCIRCLED,fHOOKED,fHINGED",
  "cTHUMB BETWEEN INDEX MIDDLE STRAIGHT,cINDEX MIDDLE CONJOINED THUMB SIDE,hCONJOINED,hBENT",
  "cMIDDLE THUMB HOOKED INDEX UP,cINDEX THUMB HOOKED MIDDLE UP",
  "dMIDDLE CONJOINED HINGED THUMB SIDE,eCROSSED THUMB SIDE,eCONJOINED THUMB FORWARD",
  "fCUPPED THUMB FORWARD,cMIDDLE THUMB CUPPED INDEX UP,cINDEX THUMB CUPPED MIDDLE UP",
  "cMIDDLE THUMB CIRCLED INDEX UP,gHINGED,cINDEX THUMB ANGLED OUT MIDDLE UP,fIN MIDDLE UP",
  "eCIRCLED MIDDLE UP,dMIDDLE THUMB CONJOINED HINGED,fANGLED OUT,fANGLED",
  "cMIDDLE THUMB ANGLED OUT INDEX UP,hCROSSED,fINDEX UP,cINDEX THUMB HOOKED MIDDLE HINGED",
  "bHAND-FLAT FOUR FINGERS,eBENT,eHINGED,eCONJOINED,fSPLIT,bHAND-CLAW FOUR FINGERS CONJOINED",
  "bHAND-FIST FOUR FINGERS CONJOINED BENT,bHAND-HINGE FOUR FINGERS CONJOINED",
  "bHAND-FLAT FIVE FINGERS SPREAD,cHEEL FIVE FINGERS SPREAD,cFIVE FINGERS SPREAD FOUR BENT",
  "cHEEL FIVE FINGERS SPREAD FOUR BENT,cFIVE FINGERS SPREAD BENT,cHEEL FIVE FINGERS SPREAD BENT",
  "cFIVE FINGERS SPREAD THUMB FORWARD,bHAND-CUP FIVE FINGERS SPREAD,fOPEN",
  "bHAND-HINGE FIVE FINGERS SPREAD OPEN,bHAND-OVAL FIVE FINGERS SPREAD",
  "bHAND-FLAT FIVE FINGERS SPREAD HINGED,gTHUMB SIDE,gNO THUMB,bHAND-FLAT,cBETWEEN PALM FACINGS",
  "cHEEL,cTHUMB SIDE,cHEEL THUMB SIDE,cTHUMB BENT,dFORWARD,cSPLIT INDEX THUMB SIDE,dCENTRE",
  "eTHUMB SIDE,gBENT,dLITTLE,bHAND-CLAW,cTHUMB SIDE,cNO THUMB,cTHUMB FORWARD,bHAND-HOOK CURLICUE",
  "bHAND-HOOK,bHAND-CUP OPEN,bHAND-CUP,cOPEN THUMB SIDE,cTHUMB SIDE,cOPEN NO THUMB,cNO THUMB",
  "cOPEN THUMB FORWARD,cTHUMB FORWARD,bHAND-CURLICUE OPEN,bHAND-CURLICUE,bHAND-CIRCLE,bHAND-OVAL",
  "cTHUMB SIDE,cNO THUMB,cTHUMB FORWARD,bHAND-HINGE OPEN,dTHUMB FORWARD,bHAND-HINGE,cSMALL",
  "cOPEN THUMB SIDE,cTHUMB SIDE,cOPEN NO THUMB,cNO THUMB,cTHUMB SIDE TOUCHING INDEX",
  "dBETWEEN MIDDLE RING,bHAND-ANGLE,bHAND-FIST INDEX MIDDLE RING,bHAND-CIRCLE INDEX MIDDLE RING",
  "bHAND-HINGE INDEX MIDDLE RING,bHAND-ANGLE INDEX MIDDLE RING,bHAND-HINGE LITTLE",
  "bHAND-FIST INDEX MIDDLE RING BENT,fCONJOINED,bHAND-HINGE INDEX MIDDLE RING CONJOINED",
  "bHAND-FIST LITTLE DOWN,eRIPPLE STRAIGHT,fCURVED,eOTHERS CIRCLED,dUP,cTHUMB UNDER LITTLE UP",
  "bHAND-CIRCLE LITTLE UP,bHAND-OVAL LITTLE UP,bHAND-ANGLE LITTLE UP",
  "bHAND-FIST LITTLE RAISED KNUCKLE,dBENT,dTOUCHES THUMB,dTHUMB,bHAND-HINGE LITTLE THUMB",
  "bHAND-FIST LITTLE INDEX THUMB,bHAND-HINGE LITTLE INDEX THUMB",
  "bHAND-ANGLE LITTLE INDEX THUMB INDEX THUMB OUT,gTHUMB,bHAND-FIST LITTLE INDEX",
  "bHAND-CIRCLE LITTLE INDEX,bHAND-HINGE LITTLE INDEX,bHAND-ANGLE LITTLE INDEX",
  "bHAND-FIST INDEX MIDDLE LITTLE,bHAND-CIRCLE INDEX MIDDLE LITTLE",
  "bHAND-HINGE INDEX MIDDLE LITTLE,cRING,bHAND-ANGLE INDEX MIDDLE LITTLE",
  "bHAND-FIST INDEX MIDDLE CROSS LITTLE,bHAND-CIRCLE INDEX MIDDLE CROSS LITTLE",
  "bHAND-FIST RING DOWN,bHAND-HINGE RING DOWN INDEX THUMB HOOK MIDDLE",
  "bHAND-ANGLE RING DOWN MIDDLE THUMB INDEX CROSS,bHAND-FIST RING UP,dRAISED KNUCKLE,dLITTLE",
  "bHAND-CIRCLE RING LITTLE,bHAND-OVAL RING LITTLE,bHAND-ANGLE RING LITTLE,bHAND-FIST RING MIDDLE",
  "eCONJOINED,eRAISED KNUCKLES,dINDEX,dTHUMB,bHAND-HOOK RING THUMB,bHAND-FIST INDEX RING LITTLE",
  "bHAND-CIRCLE INDEX RING LITTLE,bHAND-CURLICUE INDEX RING LITTLE ON",
  "bHAND-HOOK INDEX RING LITTLE OUT,fIN,fUNDER,bHAND-CUP INDEX RING LITTLE",
  "bHAND-HINGE INDEX RING LITTLE,bHAND-ANGLE INDEX RING LITTLE OUT,eLITTLE,bHAND-FIST MIDDLE DOWN",
  "bHAND-HINGE MIDDLE,bHAND-FIST MIDDLE UP,bHAND-CIRCLE MIDDLE UP",
  "bHAND-FIST MIDDLE RAISED KNUCKLE,dUP THUMB SIDE,bHAND-HOOK MIDDLE THUMB",
  "bHAND-FIST MIDDLE THUMB LITTLE,dLITTLE,dRING LITTLE,bHAND-CIRCLE MIDDLE RING LITTLE",
  "bHAND-CURLICUE MIDDLE RING LITTLE ON,bHAND-CUP MIDDLE RING LITTLE",
  "bHAND-HINGE MIDDLE RING LITTLE,bHAND-ANGLE MIDDLE RING LITTLE OUT,fIN,eLITTLE",
  "bHAND-CIRCLE MIDDLE RING LITTLE BENT,bHAND-CLAW MIDDLE RING LITTLE CONJOINED,gSIDE",
  "bHAND-HOOK MIDDLE RING LITTLE CONJOINED OUT,gIN,fCONJOINED,bHAND-HINGE INDEX HINGED",
  "bHAND-FIST INDEX THUMB SIDE,bHAND-HINGE INDEX THUMB SIDE",
  "bHAND-FIST INDEX THUMB SIDE THUMB DIAGONAL,gCONJOINED,gBENT,fINDEX BENT,fBOTH BENT",
  "fINDEX HINGE,eFORWARD INDEX STRAIGHT,gBENT,eHOOK,eCURLICUE,eCURVE THUMB INSIDE",
  "bHAND-CLAW INDEX THUMB CURVE THUMB INSIDE,bHAND-FIST INDEX THUMB CURVE THUMB UNDER,eCIRCLE",
  "bHAND-CUP INDEX THUMB,eOPEN,bHAND-HINGE INDEX THUMB OPEN,eLARGE,dTHUMB,eSMALL",
  "bHAND-ANGLE INDEX THUMB OUT,eIN,dTHUMB,bHAND-FIST THUMB,dHEEL,dSIDE DIAGONAL,eCONJOINED,eBENT",
  "dFORWARD,dBETWEEN INDEX MIDDLE,eMIDDLE RING,eRING LITTLE,dUNDER TWO FINGERS,dOVER TWO FINGERS",
  "dUNDER THREE FINGERS,eFOUR FINGERS,dOVER FOUR RAISED KNUCKLES,bHAND-FIST,cHEEL,bTOUCH SINGLE",
  "cMULTIPLE,cBETWEEN,bGRASP SINGLE,cMULTIPLE,cBETWEEN,bSTRIKE SINGLE,cMULTIPLE,cBETWEEN",
  "bBRUSH SINGLE,cMULTIPLE,cBETWEEN,bRUB SINGLE,cMULTIPLE,cBETWEEN,bSURFACE SYMBOLS,cBETWEEN",
  "bSQUEEZE LARGE SINGLE,cSMALL SINGLE,cLARGE MULTIPLE,cSMALL MULTIPLE,cSEQUENTIAL",
  "bFLICK LARGE SINGLE,cSMALL SINGLE,cLARGE MULTIPLE,cSMALL MULTIPLE,cSEQUENTIAL",
  "bSQUEEZE FLICK ALTERNATING,bMOVEMENT-HINGE UP DOWN LARGE,eSMALL,dSEQUENTIAL,cDOWN SEQUENTIAL",
  "cUP DOWN ALTERNATING LARGE,fSMALL,cSIDE TO SIDE SCISSORS,bMOVEMENT-WALLPLANE FINGER CONTACT",
  "bMOVEMENT-FLOORPLANE FINGER CONTACT,bMOVEMENT-WALLPLANE SINGLE STRAIGHT SMALL,eMEDIUM,eLARGE",
  "eLARGEST,dWRIST FLEX,cDOUBLE STRAIGHT,dWRIST FLEX,dALTERNATING,eWRIST FLEX,cCROSS",
  "cTRIPLE STRAIGHT MOVEMENT,dWRIST FLEX,dALTERNATING,eWRIST FLEX,cBEND SMALL,dMEDIUM,dLARGE",
  "cCORNER SMALL,dMEDIUM,dLARGE,dROTATION,cCHECK SMALL,dMEDIUM,dLARGE,cBOX SMALL,dMEDIUM,dLARGE",
  "cZIGZAG SMALL,dMEDIUM,dLARGE,cPEAKS SMALL,dMEDIUM,dLARGE",
  "bTRAVEL-WALLPLANE ROTATION-WALLPLANE SINGLE,dDOUBLE,dALTERNATING,cROTATION-FLOORPLANE SINGLE",
  "dDOUBLE,dALTERNATING,cSHAKING,cARM SPIRAL SINGLE,eDOUBLE,eTRIPLE,bMOVEMENT-DIAGONAL AWAY SMALL",
  "dMEDIUM,dLARGE,dLARGEST,cTOWARDS SMALL,dMEDIUM,dLARGE,dLARGEST,cBETWEEN AWAY SMALL,eMEDIUM",
  "eLARGE,eLARGEST,dTOWARDS SMALL,eMEDIUM,eLARGE,eLARGEST",
  "bMOVEMENT-FLOORPLANE SINGLE STRAIGHT SMALL,eMEDIUM,eLARGE,eLARGEST,dWRIST FLEX",
  "cDOUBLE STRAIGHT,dWRIST FLEX,dALTERNATING,eWRIST FLEX,cCROSS,cTRIPLE STRAIGHT MOVEMENT",
  "dWRIST FLEX,dALTERNATING MOVEMENT,eWRIST FLEX,cBEND,cCORNER SMALL,dMEDIUM,dLARGE,cCHECK",
  "cBOX SMALL,dMEDIUM,dLARGE,cZIGZAG SMALL,dMEDIUM,dLARGE,cPEAKS SMALL,dMEDIUM,dLARGE",
  "bTRAVEL-FLOORPLANE ROTATION-FLOORPLANE SINGLE,dDOUBLE,dALTERNATING,cROTATION-WALLPLANE SINGLE",
  "dDOUBLE,dALTERNATING,cSHAKING,bMOVEMENT-WALLPLANE CURVE QUARTER SMALL,eMEDIUM,eLARGE,eLARGEST",
  "dHALF-CIRCLE SMALL,eMEDIUM,eLARGE,eLARGEST,dTHREE-QUARTER CIRCLE SMALL,fMEDIUM,cHUMP SMALL",
  "dMEDIUM,dLARGE,cLOOP SMALL,dMEDIUM,dLARGE,dSMALL DOUBLE,cWAVE CURVE DOUBLE SMALL,fMEDIUM",
  "fLARGE,eTRIPLE SMALL,fMEDIUM,fLARGE,cCURVE THEN STRAIGHT,cCURVED CROSS SMALL,eMEDIUM",
  "bROTATION-WALLPLANE SINGLE,cDOUBLE,cALTERNATE,bMOVEMENT-WALLPLANE SHAKING",
  "cCURVE HITTING FRONT WALL,cHUMP HITTING FRONT WALL,cLOOP HITTING FRONT WALL",
  "cWAVE HITTING FRONT WALL,bROTATION-WALLPLANE SINGLE HITTING FRONT WALL",
  "cDOUBLE HITTING FRONT WALL,cALTERNATING HITTING FRONT WALL",
  "bMOVEMENT-WALLPLANE CURVE HITTING CHEST,cHUMP HITTING CHEST,cLOOP HITTING CHEST",
  "cWAVE HITTING CHEST,bROTATION-WALLPLANE SINGLE HITTING CHEST,cDOUBLE HITTING CHEST",
  "cALTERNATING HITTING CHEST,bMOVEMENT-WALLPLANE WAVE DIAGONAL PATH SMALL,fMEDIUM,fLARGE",
  "bMOVEMENT-FLOORPLANE CURVE HITTING CEILING SMALL,fLARGE,cHUMP HITTING CEILING SMALL DOUBLE",
  "fLARGE DOUBLE,fSMALL TRIPLE,fLARGE TRIPLE,cLOOP HITTING CEILING SMALL SINGLE,fLARGE SINGLE",
  "fSMALL DOUBLE,fLARGE DOUBLE,cWAVE HITTING CEILING SMALL,fLARGE",
  "bROTATION-FLOORPLANE SINGLE HITTING CEILING,cDOUBLE HITTING CEILING",
  "cALTERNATING HITTING CEILING,bMOVEMENT-FLOORPLANE CURVE HITTING FLOOR SMALL,fLARGE",
  "cHUMP HITTING FLOOR SMALL DOUBLE,fLARGE DOUBLE,fTRIPLE SMALL TRIPLE,gLARGE TRIPLE",
  "cLOOP HITTING FLOOR SMALL SINGLE,fLARGE SINGLE,fSMALL DOUBLE,fLARGE DOUBLE",
  "cWAVE HITTING FLOOR SMALL,fLARGE,bROTATION-FLOORPLANE SINGLE HITTING FLOOR",
  "cDOUBLE HITTING FLOOR,cALTERNATING HITTING FLOOR,bMOVEMENT-FLOORPLANE CURVE SMALL,dMEDIUM",
  "dLARGE,dLARGEST,dCOMBINED,cHUMP SMALL,cLOOP SMALL,cWAVE SNAKE,dSMALL,dLARGE",
  "bROTATION-FLOORPLANE SINGLE,cDOUBLE,cALTERNATING,bMOVEMENT-FLOORPLANE SHAKING PARALLEL",
  "bMOVEMENT-WALLPLANE ARM CIRCLE SMALL SINGLE,eMEDIUM SINGLE,eSMALL DOUBLE,eMEDIUM DOUBLE",
  "bMOVEMENT-FLOORPLANE ARM CIRCLE HITTING WALL SMALL SINGLE,gMEDIUM SINGLE,gLARGE SINGLE",
  "gSMALL DOUBLE,gMEDIUM DOUBLE,gLARGE DOUBLE,bMOVEMENT-WALLPLANE WRIST CIRCLE FRONT SINGLE",
  "fDOUBLE,bMOVEMENT-FLOORPLANE WRIST CIRCLE HITTING WALL SINGLE,gDOUBLE",
  "bMOVEMENT-WALLPLANE FINGER CIRCLES SINGLE,eDOUBLE",
  "bMOVEMENT-FLOORPLANE FINGER CIRCLES HITTING WALL SINGLE,gDOUBLE,bDYNAMIC ARROWHEAD SMALL",
  "dLARGE,cFAST,cSLOW,cTENSE,cRELAXED,cSIMULTANEOUS,dALTERNATING,cEVERY OTHER TIME,cGRADUAL,bHEAD",
  "cRIM,cMOVEMENT-WALLPLANE STRAIGHT,dTILT,cMOVEMENT-FLOORPLANE STRAIGHT",
  "cMOVEMENT-WALLPLANE CURVE,cMOVEMENT-FLOORPLANE CURVE,cMOVEMENT CIRCLE",
  "bFACE DIRECTION POSITION NOSE FORWARD TILTING,fUP OR DOWN,iTILTING,bEYEBROWS STRAIGHT UP",
  "dNEUTRAL,dDOWN,bDREAMY EYEBROWS NEUTRAL DOWN,dDOWN NEUTRAL,dUP NEUTRAL,dNEUTRAL UP",
  "bFOREHEAD NEUTRAL,cCONTACT,cWRINKLED,bEYES OPEN,cSQUEEZED,cCLOSED,bEYE BLINK SINGLE,dMULTIPLE",
  "bEYES HALF OPEN,cWIDE OPEN,cHALF CLOSED,cWIDENING MOVEMENT,bEYE WINK,bEYELASHES UP,cDOWN",
  "cFLUTTERING,bEYEGAZE-WALLPLANE STRAIGHT,dDOUBLE,dALTERNATING,bEYEGAZE-FLOORPLANE STRAIGHT",
  "dDOUBLE,dALTERNATING,bEYEGAZE-WALLPLANE CURVED,bEYEGAZE-FLOORPLANE CURVED",
  "bEYEGAZE-WALLPLANE CIRCLING,bCHEEKS PUFFED,cNEUTRAL,cSUCKED,bTENSE CHEEKS HIGH,dMIDDLE,dLOW",
  "bEARS,bNOSE NEUTRAL,cCONTACT,cWRINKLES,cWIGGLES,bAIR BLOWING OUT,cSUCKING IN",
  "cBLOW SMALL ROTATIONS,cSUCK SMALL ROTATIONS,bBREATH INHALE,cEXHALE,bMOUTH CLOSED NEUTRAL",
  "dFORWARD,dCONTACT,cSMILE,dWRINKLED,dOPEN,cFROWN,dWRINKLED,dOPEN,cOPEN CIRCLE,dFORWARD",
  "dWRINKLED,dOVAL,eWRINKLED,eYAWN,dRECTANGLE,eWRINKLED,eYAWN,cKISS,dFORWARD,dWRINKLED,cTENSE",
  "dFORWARD,dSUCKED,bLIPS PRESSED TOGETHER,bLIP LOWER OVER UPPER,cUPPER OVER LOWER,bMOUTH CORNERS",
  "cWRINKLES SINGLE,dDOUBLE,bTONGUE STICKING OUT FAR,cLICKING LIPS,cTIP BETWEEN LIPS",
  "dTOUCHING INSIDE MOUTH,cINSIDE MOUTH RELAXED,cMOVES AGAINST CHEEK,cCENTRE STICKING OUT",
  "dINSIDE MOUTH,bTEETH,cMOVEMENT,cON TONGUE,eMOVEMENT,dLIPS,eMOVEMENT,cBITE LIPS",
  "bMOVEMENT-WALLPLANE JAW,bMOVEMENT-FLOORPLANE JAW,bNECK,bHAIR,bEXCITEMENT,bSHOULDER HIP SPINE",
  "dPOSITIONS,bWALLPLANE SHOULDER HIP MOVE,bFLOORPLANE SHOULDER HIP MOVE",
  "bSHOULDER TILTING FROM WAIST,bTORSO-WALLPLANE STRAIGHT STRETCH,cCURVED BEND",
  "bTORSO-FLOORPLANE TWISTING,bUPPER BODY TILTING FROM HIP JOINTS,bLIMB COMBINATION,cLENGTH-1",
  "cLENGTH-2,cLENGTH-3,cLENGTH-4,cLENGTH-5,cLENGTH-6,cLENGTH-7,bFINGER,bLOCATION-WALLPLANE SPACE",
  "bLOCATION-FLOORPLANE SPACE,bLOCATION HEIGHT,cWIDTH,cDEPTH,cHEAD NECK,cTORSO,cLIMBS DIGITS",
  "bCOMMA,bFULL STOP,bSEMICOLON,bCOLON,bPARENTHESIS,1da9b:bFILL MODIFIER-2,cMODIFIER-3",
  "cMODIFIER-4,cMODIFIER-5,cMODIFIER-6,1daa1:bROTATION MODIFIER-2,cMODIFIER-3,cMODIFIER-4",
  "cMODIFIER-5,cMODIFIER-6,cMODIFIER-7,cMODIFIER-8,cMODIFIER-9,cMODIFIER-10,cMODIFIER-11",
  "cMODIFIER-12,cMODIFIER-13,cMODIFIER-14,cMODIFIER-15,cMODIFIER-16",
  "1df00:aLATIN SMALL LETTER FENG DIGRAPH WITH TRILL,dREVERSED SCRIPT G",
  "bLETTER SMALL CAPITAL TURNED G,bSMALL LETTER REVERSED K,bLETTER SMALL CAPITAL L WITH BELT",
  "bSMALL LETTER LEZH WITH RETROFLEX HOOK,dTURNED Y WITH BELT,dREVERSED ENG",
  "dTURNED R WITH LONG LEG AND RETROFLEX HOOK,dT WITH HOOK AND RETROFLEX HOOK",
  "bLETTER RETROFLEX CLICK WITH RETROFLEX HOOK,bSMALL LETTER ESH WITH DOUBLE BAR,hAND CURL",
  "dTURNED T WITH CURL,bLETTER INVERTED GLOTTAL STOP WITH CURL,cSTRETCHED C WITH CURL",
  "cSMALL CAPITAL TURNED K,bSMALL LETTER L WITH FISHHOOK,dDEZH DIGRAPH WITH PALATAL HOOK",
  "dL WITH BELT AND PALATAL HOOK,dENG WITH PALATAL HOOK,dTURNED R WITH PALATAL HOOK",
  "dR WITH FISHHOOK AND PALATAL HOOK,dTESH DIGRAPH WITH PALATAL HOOK,dEZH WITH PALATAL HOOK",
  "dDEZH DIGRAPH WITH RETROFLEX HOOK,dI WITH STROKE AND RETROFLEX HOOK,dO WITH RETROFLEX HOOK",
  "dTESH DIGRAPH WITH RETROFLEX HOOK,dC WITH RETROFLEX HOOK,dS WITH CURL",
  "1e000:aCOMBINING GLAGOLITIC LETTER AZU,dBUKY,dVEDE,dGLAGOLI,dDOBRO,dYESTU,dZHIVETE",
  "1e008:dZEMLJA,dIZHE,dINITIAL IZHE,dI,dDJERVI,dKAKO,dLJUDIJE,dMYSLITE,dNASHI,dONU,dPOKOJI",
  "dRITSI,dSLOVO,dTVRIDO,dUKU,dFRITU,dHERU,1e01b:dSHTA,dTSI,dCHRIVI,dSHA,dYERU,dYERI,dYATI",
  "1e023:dYU,dSMALL YUS,1e026:dYO,dIOTATED SMALL YUS,dBIG YUS,dIOTATED BIG YUS,dFITA",
  "1e100:aNYIAKENG PUACHUE HMONG LETTER MA,eTSA,eNTA,eTA,eHA,eNA,eXA,eNKA,eCA,eLA,eSA,eZA,eNCA",
  "eNTSA,eKA,eDA,eNYA,eNRA,eVA,eNTXA,eTXA,eFA,eRA,eQA,eYA,eNQA,ePA,eXYA,eNPA,eDLA,eNPLA,eHAH,eMLA",
  "ePLA,eGA,eRRA,eA,eAA,eI,eU,eO,eOO,eE,eEE,eW,1e130:dTONE-B,dTONE-M,dTONE-J,dTONE-V,dTONE-S",
  "dTONE-G,dTONE-D,dSIGN FOR PERSON,fTHING,fLOCATION,fANIMAL,fINVERTEBRATE,eXW XW",
  "dSYLLABLE LENGTHENER,1e140:dDIGIT ZERO,eONE,eTWO,eTHREE,eFOUR,eFIVE,eSIX,eSEVEN,eEIGHT,eNINE",
  "1e14e:dLOGOGRAM NYAJ,dCIRCLED CA,1e290:aTOTO LETTER PA,cBA,cTA,cDA,cKA,cGA,cMA,cNA,cNGA,cSA",
  "cCHA,cYA,cWA,cJA,cHA,cRA,cLA,cI,cBREATHY I,cIU,cBREATHY IU,cU,cE,cBREATHY E,cEO,cBREATHY EO,cO",
  "cAE,cBREATHY AE,cA,bSIGN RISING TONE,1e2c0:aWANCHO LETTER AA,cA,cBA,cCA,cDA,cGA,cYA,cPHA,cLA",
  "cNA,cPA,cTA,cTHA,cFA,cSA,cSHA,cJA,cZA,cWA,cVA,cKA,cO,cAU,cRA,cMA,cKHA,cHA,cE,cI,cNGA,cU,cLLHA",
  "cTSA,cTRA,cONG,cAANG,cANG,cING,cON,cEN,cAAN,cNYA,cUEN,cYIH,bTONE TUP,cTUPNI,cKOI,cKOINI",
  "bDIGIT ZERO,cONE,cTWO,cTHREE,cFOUR,cFIVE,cSIX,cSEVEN,cEIGHT,cNINE,1e2ff:bNGUN SIGN",
  "1e7e0:aETHIOPIC SYLLABLE HHYA,cHHYU,cHHYI,cHHYAA,cHHYEE,cHHYE,cHHYO,1e7e8:cGURAGE HHWA,cHHWI",
  "cHHWEE,cHHWE,1e7ed:cGURAGE MWI,dMWEE,1e7f0:dQWI,dQWEE,dQWE,dBWI,dBWEE,dKWI,dKWEE,dKWE,dGWI",
  "dGWEE,dGWE,dFWI,dFWEE,dPWI,dPWEE,1e800:aMENDE KIKAKUI SYLLABLE M001 KI,dM002 KA,dM003 KU",
  "dM065 KEE,dM095 KE,dM076 KOO,dM048 KO,dM179 KUA,dM004 WI,dM005 WA,dM006 WU,dM126 WEE,dM118 WE",
  "dM114 WOO,dM045 WO,dM194 WUI,dM143 WEI,dM061 WVI,dM049 WVA,dM139 WVE,dM007 MIN,dM008 MAN",
  "dM009 MUN,dM059 MEN,dM094 MON,dM154 MUAN,dM189 MUEN,dM010 BI,dM011 BA,dM012 BU,dM150 BEE",
  "dM097 BE,dM103 BOO,dM138 BO,dM013 I,dM014 A,dM015 U,dM163 EE,dM100 E,dM165 OO,dM147 O,dM137 EI",
  "dM131 IN,dM135 IN,dM195 AN,dM178 EN,dM019 SI,dM020 SA,dM021 SU,dM162 SEE,dM116 SE,dM136 SOO",
  "dM079 SO,dM196 SIA,dM025 LI,dM026 LA,dM027 LU,dM084 LEE,dM073 LE,dM054 LOO,dM153 LO",
  "dM110 LONG LE,dM016 DI,dM017 DA,dM018 DU,dM089 DEE,dM180 DOO,dM181 DO,dM022 TI,dM023 TA",
  "dM024 TU,dM091 TEE,dM055 TE,dM104 TOO,dM069 TO,dM028 JI,dM029 JA,dM030 JU,dM157 JEE,dM113 JE",
  "dM160 JOO,dM063 JO,dM175 LONG JO,dM031 YI,dM032 YA,dM033 YU,dM109 YEE,dM080 YE,dM141 YOO",
  "dM121 YO,dM034 FI,dM035 FA,dM036 FU,dM078 FEE,dM075 FE,dM133 FOO,dM088 FO,dM197 FUA,dM101 FAN",
  "dM037 NIN,dM038 NAN,dM039 NUN,dM117 NEN,dM169 NON,dM176 HI,dM041 HA,dM186 HU,dM040 HEE",
  "dM096 HE,dM042 HOO,dM140 HO,dM083 HEEI,dM128 HOOU,dM053 HIN,dM130 HAN,dM087 HUN,dM052 HEN",
  "dM193 HON,dM046 HUAN,dM090 NGGI,dM043 NGGA,dM082 NGGU,dM115 NGGEE,dM146 NGGE,dM156 NGGOO",
  "dM120 NGGO,dM159 NGGAA,dM127 NGGUA,dM086 LONG NGGE,dM106 LONG NGGOO,dM183 LONG NGGO,dM155 GI",
  "dM111 GA,dM168 GU,dM190 GEE,dM166 GUEI,dM167 GUAN,dM184 NGEN,dM057 NGON,dM177 NGUAN,dM068 PI",
  "dM099 PA,dM050 PU,dM081 PEE,dM051 PE,dM102 POO,dM066 PO,dM145 MBI,dM062 MBA,dM122 MBU",
  "dM047 MBEE,dM188 MBEE,dM072 MBE,dM172 MBOO,dM174 MBO,dM187 MBUU,dM161 LONG MBE,dM105 LONG MBOO",
  "dM142 LONG MBO,dM132 KPI,dM092 KPA,dM074 KPU,dM044 KPEE,dM108 KPE,dM112 KPOO,dM158 KPO",
  "dM124 GBI,dM056 GBA,dM148 GBU,dM093 GBEE,dM107 GBE,dM071 GBOO,dM070 GBO,dM171 RA,dM123 NDI",
  "dM129 NDA,dM125 NDU,dM191 NDEE,dM119 NDE,dM067 NDOO,dM064 NDO,dM152 NJA,dM192 NJU,dM149 NJEE",
  "dM134 NJOO,dM182 VI,dM185 VA,dM151 VU,dM173 VEE,dM085 VE,dM144 VOO,dM077 VO,dM164 NYIN",
  "dM058 NYAN,dM170 NYUN,dM098 NYEN,dM060 NYON,1e8c7:cDIGIT ONE,dTWO,dTHREE,dFOUR,dFIVE,dSIX",
  "dSEVEN,dEIGHT,dNINE,cCOMBINING NUMBER TEENS,eTENS,eHUNDREDS,eTHOUSANDS,eTEN THOUSANDS",
  "eHUNDRED THOUSANDS,eMILLIONS,1e900:aADLAM CAPITAL LETTER ALIF,dDAALI,dLAAM,dMIIM,dBA",
  "dSINNYIIYHE,dPE,dBHE,dRA,dE,dFA,dI,dO,dDHA,dYHE,dWAW,dNUN,dKAF,dYA,dU,dJIIM,dCHI,dHA,dQAAF,dGA",
  "dNYA,dTU,dNHA,dVA,dKHA,dGBE,dZAL,dKPO,dSHA,bSMALL LETTER ALIF,dDAALI,dLAAM,dMIIM,dBA",
  "dSINNYIIYHE,dPE,dBHE,dRA,dE,dFA,dI,dO,dDHA,dYHE,dWAW,dNUN,dKAF,dYA,dU,dJIIM,dCHI,dHA,dQAAF,dGA",
  "dNYA,dTU,dNHA,dVA,dKHA,dGBE,dZAL,dKPO,dSHA,bALIF LENGTHENER,bVOWEL LENGTHENER,bGEMINATION MARK",
  "bHAMZA,bCONSONANT MODIFIER,bGEMINATE CONSONANT MODIFIER,bNUKTA,bNASALIZATION MARK",
  "1e950:bDIGIT ZERO,cONE,cTWO,cTHREE,cFOUR,cFIVE,cSIX,cSEVEN,cEIGHT,cNINE",
  "1e95e:bINITIAL EXCLAMATION MARK,cQUESTION MARK,1ec71:aINDIC SIYAQ NUMBER ONE,dTWO,dTHREE,dFOUR",
  "dFIVE,dSIX,dSEVEN,dEIGHT,dNINE,dTEN,dTWENTY,dTHIRTY,dFORTY,dFIFTY,dSIXTY,dSEVENTY,dEIGHTY",
  "dNINETY,dONE HUNDRED,dTWO HUNDRED,dTHREE HUNDRED,dFOUR HUNDRED,dFIVE HUNDRED,dSIX HUNDRED",
  "dSEVEN HUNDRED,dEIGHT HUNDRED,dNINE HUNDRED,dONE THOUSAND,dTWO THOUSAND,dTHREE THOUSAND",
  "dFOUR THOUSAND,dFIVE THOUSAND,dSIX THOUSAND,dSEVEN THOUSAND,dEIGHT THOUSAND,dNINE THOUSAND",
  "dTEN THOUSAND,dTWENTY THOUSAND,dTHIRTY THOUSAND,dFORTY THOUSAND,dFIFTY THOUSAND",
  "dSIXTY THOUSAND,dSEVENTY THOUSAND,dEIGHTY THOUSAND,dNINETY THOUSAND,dLAKH,dLAKHAN,cLAKH MARK",
  "cNUMBER KAROR,dKARORAN,dPREFIXED ONE,eTWO,eTHREE,eFOUR,eFIVE,eSIX,eSEVEN,eEIGHT,eNINE",
  "cPLACEHOLDER,cFRACTION ONE QUARTER,eHALF,dTHREE QUARTERS,cRUPEE MARK,cNUMBER ALTERNATE ONE",
  "eTWO,eTEN THOUSAND,cALTERNATE LAKH MARK,1ed01:aOTTOMAN SIYAQ NUMBER ONE,dTWO,dTHREE,dFOUR",
  "dFIVE,dSIX,dSEVEN,dEIGHT,dNINE,dTEN,dTWENTY,dTHIRTY,dFORTY,dFIFTY,dSIXTY,dSEVENTY,dEIGHTY",
  "dNINETY,dONE HUNDRED,dTWO HUNDRED,dTHREE HUNDRED,dFOUR HUNDRED,dFIVE HUNDRED,dSIX HUNDRED",
  "dSEVEN HUNDRED,dEIGHT HUNDRED,dNINE HUNDRED,dONE THOUSAND,dTWO THOUSAND,dTHREE THOUSAND",
  "dFOUR THOUSAND,dFIVE THOUSAND,dSIX THOUSAND,dSEVEN THOUSAND,dEIGHT THOUSAND,dNINE THOUSAND",
  "dTEN THOUSAND,dTWENTY THOUSAND,dTHIRTY THOUSAND,dFORTY THOUSAND,dFIFTY THOUSAND",
  "dSIXTY THOUSAND,dSEVENTY THOUSAND,dEIGHTY THOUSAND,dNINETY THOUSAND,cMARRATAN",
  "cALTERNATE NUMBER TWO,eTHREE,eFOUR,eFIVE,eSIX,eSEVEN,eEIGHT,eNINE,eTEN,eFOUR HUNDRED",
  "eSIX HUNDRED,eTWO THOUSAND,eTEN THOUSAND,cFRACTION ONE HALF,eSIXTH",
  "1ee00:aARABIC MATHEMATICAL ALEF,cBEH,cJEEM,cDAL,1ee05:cWAW,cZAIN,cHAH,cTAH,cYEH,cKAF,cLAM",
  "cMEEM,cNOON,cSEEN,cAIN,cFEH,cSAD,cQAF,cREH,cSHEEN,cTEH,cTHEH,cKHAH,cTHAL,cDAD,cZAH,cGHAIN",
  "cDOTLESS BEH,dNOON,dFEH,dQAF,1ee21:cINITIAL BEH,dJEEM,1ee24:dHEH,1ee27:dHAH,1ee29:dYEH,dKAF",
  "dLAM,dMEEM,dNOON,dSEEN,dAIN,dFEH,dSAD,dQAF,1ee34:dSHEEN,dTEH,dTHEH,dKHAH,1ee39:dDAD",
  "1ee3b:dGHAIN,1ee42:cTAILED JEEM,1ee47:dHAH,1ee49:dYEH,1ee4b:dLAM,1ee4d:dNOON,dSEEN,dAIN",
  "1ee51:dSAD,dQAF,1ee54:dSHEEN,1ee57:dKHAH,1ee59:dDAD,1ee5b:dGHAIN,1ee5d:dDOTLESS NOON",
  "1ee5f:eQAF,1ee61:cSTRETCHED BEH,dJEEM,1ee64:dHEH,1ee67:dHAH,dTAH,dYEH,dKAF,1ee6c:dMEEM,dNOON",
  "dSEEN,dAIN,dFEH,dSAD,dQAF,1ee74:dSHEEN,dTEH,dTHEH,dKHAH,1ee79:dDAD,dZAH,dGHAIN,dDOTLESS BEH",
  "1ee7e:eFEH,1ee80:cLOOPED ALEF,dBEH,dJEEM,dDAL,dHEH,dWAW,dZAIN,dHAH,dTAH,dYEH,1ee8b:dLAM,dMEEM",
  "dNOON,dSEEN,dAIN,dFEH,dSAD,dQAF,dREH,dSHEEN,dTEH,dTHEH,dKHAH,dTHAL,dDAD,dZAH,dGHAIN",
  "1eea1:cDOUBLE-STRUCK BEH,dJEEM,dDAL,1eea5:dWAW,dZAIN,dHAH,dTAH,dYEH,1eeab:dLAM,dMEEM,dNOON",
  "dSEEN,dAIN,dFEH,dSAD,dQAF,dREH,dSHEEN,dTEH,dTHEH,dKHAH,dTHAL,dDAD,dZAH,dGHAIN",
  "1eef0:cOPERATOR MEEM WITH HAH WITH TATWEEL,dHAH WITH DAL"]

/-- Names from the game tiles on, with the pictographs and the invisible marks at the end. -/
def pictographNames : List String := [
  "1f000:aMAHJONG TILE EAST WIND,cSOUTH WIND,cWEST WIND,cNORTH WIND,cRED DRAGON,cGREEN DRAGON",
  "cWHITE DRAGON,cONE OF CHARACTERS,cTWO OF CHARACTERS,cTHREE OF CHARACTERS,cFOUR OF CHARACTERS",
  "cFIVE OF CHARACTERS,cSIX OF CHARACTERS,cSEVEN OF CHARACTERS,cEIGHT OF CHARACTERS",
  "cNINE OF CHARACTERS,cONE OF BAMBOOS,cTWO OF BAMBOOS,cTHREE OF BAMBOOS,cFOUR OF BAMBOOS",
  "cFIVE OF BAMBOOS,cSIX OF BAMBOOS,cSEVEN OF BAMBOOS,cEIGHT OF BAMBOOS,cNINE OF BAMBOOS",
  "cONE OF CIRCLES,cTWO OF CIRCLES,cTHREE OF CIRCLES,cFOUR OF CIRCLES,cFIVE OF CIRCLES",
  "cSIX OF CIRCLES,cSEVEN OF CIRCLES,cEIGHT OF CIRCLES,cNINE OF CIRCLES,cPLUM,cORCHID,cBAMBOO",
  "cCHRYSANTHEMUM,cSPRING,cSUMMER,cAUTUMN,cWINTER,cJOKER,cBACK,1f030:aDOMINO TILE HORIZONTAL BACK",
  "cHORIZONTAL-00-00,cHORIZONTAL-00-01,cHORIZONTAL-00-02,cHORIZONTAL-00-03,cHORIZONTAL-00-04",
  "cHORIZONTAL-00-05,cHORIZONTAL-00-06,cHORIZONTAL-01-00,cHORIZONTAL-01-01,cHORIZONTAL-01-02",
  "cHORIZONTAL-01-03,cHORIZONTAL-01-04,cHORIZONTAL-01-05,cHORIZONTAL-01-06,cHORIZONTAL-02-00",
  "cHORIZONTAL-02-01,cHORIZONTAL-02-02,cHORIZONTAL-02-03,cHORIZONTAL-02-04,cHORIZONTAL-02-05",
  "cHORIZONTAL-02-06,cHORIZONTAL-03-00,cHORIZONTAL-03-01,cHORIZONTAL-03-02,cHORIZONTAL-03-03",
  "cHORIZONTAL-03-04,cHORIZONTAL-03-05,cHORIZONTAL-03-06,cHORIZONTAL-04-00,cHORIZONTAL-04-01",
  "cHORIZONTAL-04-02,cHORIZONTAL-04-03,cHORIZONTAL-04-04,cHORIZONTAL-04-05,cHORIZONTAL-04-06",
  "cHORIZONTAL-05-00,cHORIZONTAL-05-01,cHORIZONTAL-05-02,cHORIZONTAL-05-03,cHORIZONTAL-05-04",
  "cHORIZONTAL-05-05,cHORIZONTAL-05-06,cHORIZONTAL-06-00,cHORIZONTAL-06-01,cHORIZONTAL-06-02",
  "cHORIZONTAL-06-03,cHORIZONTAL-06-04,cHORIZONTAL-06-05,cHORIZONTAL-06-06,cVERTICAL BACK",
  "cVERTICAL-00-00,cVERTICAL-00-01,cVERTICAL-00-02,cVERTICAL-00-03,cVERTICAL-00-04",
  "cVERTICAL-00-05,cVERTICAL-00-06,cVERTICAL-01-00,cVERTICAL-01-01,cVERTICAL-01-02",
  "cVERTICAL-01-03,cVERTICAL-01-04,cVERTICAL-01-05,cVERTICAL-01-06,cVERTICAL-02-00",
  "cVERTICAL-02-01,cVERTICAL-02-02,cVERTICAL-02-03,cVERTICAL-02-04,cVERTICAL-02-05",
  "cVERTICAL-02-06,cVERTICAL-03-00,cVERTICAL-03-01,cVERTICAL-03-02,cVERTICAL-03-03",
  "cVERTICAL-03-04,cVERTICAL-03-05,cVERTICAL-03-06,cVERTICAL-04-00,cVERTICAL-04-01",
  "cVERTICAL-04-02,cVERTICAL-04-03,cVERTICAL-04-04,cVERTICAL-04-05,cVERTICAL-04-06",
  "cVERTICAL-05-00,cVERTICAL-05-01,cVERTICAL-05-02,cVERTICAL-05-03,cVERTICAL-05-04",
  "cVERTICAL-05-05,cVERTICAL-05-06,cVERTICAL-06-00,cVERTICAL-06-01,cVERTICAL-06-02",
  "cVERTICAL-06-03,cVERTICAL-06-04,cVERTICAL-06-05,cVERTICAL-06-06,1f0a0:aPLAYING CARD BACK",
  "cACE OF SPADES,cTWO OF SPADES,cTHREE OF SPADES,cFOUR OF SPADES,cFIVE OF SPADES,cSIX OF SPADES",
  "cSEVEN OF SPADES,cEIGHT OF SPADES,cNINE OF SPADES,cTEN OF SPADES,cJACK OF SPADES",
  "cKNIGHT OF SPADES,cQUEEN OF SPADES,cKING OF SPADES,1f0b1:cACE OF HEARTS,cTWO OF HEARTS",
  "cTHREE OF HEARTS,cFOUR OF HEARTS,cFIVE OF HEARTS,cSIX OF HEARTS,cSEVEN OF HEARTS",
  "cEIGHT OF HEARTS,cNINE OF HEARTS,cTEN OF HEARTS,cJACK OF HEARTS,cKNIGHT OF HEARTS",
  "cQUEEN OF HEARTS,cKING OF HEARTS,cRED JOKER,1f0c1:cACE OF DIAMONDS,cTWO OF DIAMONDS",
  "cTHREE OF DIAMONDS,cFOUR OF DIAMONDS,cFIVE OF DIAMONDS,cSIX OF DIAMONDS,cSEVEN OF DIAMONDS",
  "cEIGHT OF DIAMONDS,cNINE OF DIAMONDS,cTEN OF DIAMONDS,cJACK OF DIAMONDS,cKNIGHT OF DIAMONDS",
  "cQUEEN OF DIAMONDS,cKING OF DIAMONDS,cBLACK JOKER,1f0d1:cACE OF CLUBS,cTWO OF CLUBS",
  "cTHREE OF CLUBS,cFOUR OF CLUBS,cFIVE OF CLUBS,cSIX OF CLUBS,cSEVEN OF CLUBS,cEIGHT OF CLUBS",
  "cNINE OF CLUBS,cTEN OF CLUBS,cJACK OF CLUBS,cKNIGHT OF CLUBS,cQUEEN OF CLUBS,cKING OF CLUBS",
  "cWHITE JOKER,cFOOL,cTRUMP-1,cTRUMP-2,cTRUMP-3,cTRUMP-4,cTRUMP-5,cTRUMP-6,cTRUMP-7,cTRUMP-8",
  "cTRUMP-9,cTRUMP-10,cTRUMP-11,cTRUMP-12,cTRUMP-13,cTRUMP-14,cTRUMP-15,cTRUMP-16,cTRUMP-17",
  "cTRUMP-18,cTRUMP-19,cTRUMP-20,cTRUMP-21,1f100:aDIGIT ZERO FULL STOP,cCOMMA,bONE COMMA",
  "bTWO COMMA,bTHREE COMMA,bFOUR COMMA,bFIVE COMMA,bSIX COMMA,bSEVEN COMMA,bEIGHT COMMA",
  "bNINE COMMA,aDINGBAT CIRCLED SANS-SERIF DIGIT ZERO,bNEGATIVE CIRCLED SANS-SERIF DIGIT ZERO",
  "aCIRCLED ZERO WITH SLASH,bANTICLOCKWISE ARROW,bDOLLAR SIGN WITH OVERLAID BACKSLASH",
  "aPARENTHESIZED LATIN CAPITAL LETTER A,eB,eC,eD,eE,eF,eG,eH,eI,eJ,eK,eL,eM,eN,eO,eP,eQ,eR,eS,eT",
  "eU,eV,eW,eX,eY,eZ,aTORTOISE SHELL BRACKETED LATIN CAPITAL LETTER S",
  "aCIRCLED ITALIC LATIN CAPITAL LETTER C,fR,bCD,bWZ,aCOPYLEFT SYMBOL",
  "aSQUARED LATIN CAPITAL LETTER A,eB,eC,eD,eE,eF,eG,eH,eI,eJ,eK,eL,eM,eN,eO,eP,eQ,eR,eS,eT,eU,eV",
  "eW,eX,eY,eZ,bHV,bMV,bSD,bSS,bPPV,bWC,aNEGATIVE CIRCLED LATIN CAPITAL LETTER A,fB,fC,fD,fE,fF",
  "fG,fH,fI,fJ,fK,fL,fM,fN,fO,fP,fQ,fR,fS,fT,fU,fV,fW,fX,fY,fZ,aRAISED MC SIGN,bMD SIGN,bMR SIGN",
  "aCIRCLED CC,bC WITH OVERLAID BACKSLASH,bHUMAN FIGURE,aNEGATIVE SQUARED LATIN CAPITAL LETTER A",
  "fB,fC,fD,fE,fF,fG,fH,fI,fJ,fK,fL,fM,fN,fO,fP,fQ,fR,fS,fT,fU,fV,fW,fX,fY,fZ",
  "aCROSSED NEGATIVE SQUARED LATIN CAPITAL LETTER P,aNEGATIVE SQUARED IC,cPA,cSA,cAB,cWC",
  "aSQUARE DJ,aSQUARED CL,bCOOL,bFREE,bID,bNEW,bNG,bOK,bSOS,bUP WITH EXCLAMATION MARK,bVS",
  "bTHREE D,bSECOND SCREEN,bTWO K,bFOUR K,bEIGHT K,bFIVE POINT ONE,bSEVEN POINT ONE",
  "bTWENTY-TWO POINT TWO,bSIXTY P,bONE HUNDRED TWENTY P,bLATIN SMALL LETTER D,bHC,bHDR,bHI-RES",
  "bLOSSLESS,bSHV,bUHD,bVOD,aMASK WORK SYMBOL,1f1e6:aREGIONAL INDICATOR SYMBOL LETTER A,eB,eC,eD",
  "eE,eF,eG,eH,eI,eJ,eK,eL,eM,eN,eO,eP,eQ,eR,eS,eT,eU,eV,eW,eX,eY,eZ,aSQUARE HIRAGANA HOKA",
  "aSQUARED KATAKANA KOKO,cSA,1f210:bCJK UNIFIED IDEOGRAPH-624B,dIDEOGRAPH-5B57,dIDEOGRAPH-53CC",
  "bKATAKANA DE,bCJK UNIFIED IDEOGRAPH-4E8C,dIDEOGRAPH-591A,dIDEOGRAPH-89E3,dIDEOGRAPH-5929",
  "dIDEOGRAPH-4EA4,dIDEOGRAPH-6620,dIDEOGRAPH-7121,dIDEOGRAPH-6599,dIDEOGRAPH-524D",
  "dIDEOGRAPH-5F8C,dIDEOGRAPH-518D,dIDEOGRAPH-65B0,dIDEOGRAPH-521D,dIDEOGRAPH-7D42",
  "dIDEOGRAPH-751F,dIDEOGRAPH-8CA9,dIDEOGRAPH-58F0,dIDEOGRAPH-5439,dIDEOGRAPH-6F14",
  "dIDEOGRAPH-6295,dIDEOGRAPH-6355,dIDEOGRAPH-4E00,dIDEOGRAPH-4E09,dIDEOGRAPH-904A",
  "dIDEOGRAPH-5DE6,dIDEOGRAPH-4E2D,dIDEOGRAPH-53F3,dIDEOGRAPH-6307,dIDEOGRAPH-8D70",
  "dIDEOGRAPH-6253,dIDEOGRAPH-7981,dIDEOGRAPH-7A7A,dIDEOGRAPH-5408,dIDEOGRAPH-6E80",
  "dIDEOGRAPH-6709,dIDEOGRAPH-6708,dIDEOGRAPH-7533,dIDEOGRAPH-5272,dIDEOGRAPH-55B6",
  "dIDEOGRAPH-914D,1f240:aTORTOISE SHELL BRACKETED CJK UNIFIED IDEOGRAPH-672C,fIDEOGRAPH-4E09",
  "fIDEOGRAPH-4E8C,fIDEOGRAPH-5B89,fIDEOGRAPH-70B9,fIDEOGRAPH-6253,fIDEOGRAPH-76D7",
  "fIDEOGRAPH-52DD,fIDEOGRAPH-6557,1f250:aCIRCLED IDEOGRAPH ADVANTAGE,cACCEPT",
  "1f260:aROUNDED SYMBOL FOR FU,dLU,dSHOU,dXI,dSHUANGXI,dCAI,1f300:aCYCLONE,aFOGGY",
  "aCLOSED UMBRELLA,aNIGHT WITH STARS,aSUNRISE OVER MOUNTAINS,aSUNRISE,aCITYSCAPE AT DUSK",
  "aSUNSET OVER BUILDINGS,aRAINBOW,aBRIDGE AT NIGHT,aWATER WAVE,aVOLCANO,aMILKY WAY",
  "aEARTH GLOBE EUROPE-AFRICA,cAMERICAS,cASIA-AUSTRALIA,aGLOBE WITH MERIDIANS,aNEW MOON SYMBOL",
  "aWAXING CRESCENT MOON SYMBOL,aFIRST QUARTER MOON SYMBOL,aWAXING GIBBOUS MOON SYMBOL",
  "aFULL MOON SYMBOL,aWANING GIBBOUS MOON SYMBOL,aLAST QUARTER MOON SYMBOL",
  "aWANING CRESCENT MOON SYMBOL,aCRESCENT MOON,aNEW MOON WITH FACE,aFIRST QUARTER MOON WITH FACE",
  "aLAST QUARTER MOON WITH FACE,aFULL MOON WITH FACE,aSUN WITH FACE,aGLOWING STAR,aSHOOTING STAR",
  "aTHERMOMETER,aBLACK DROPLET,aWHITE SUN,cWITH SMALL CLOUD,cBEHIND CLOUD,eWITH RAIN",
  "aCLOUD WITH RAIN,cSNOW,cLIGHTNING,cTORNADO,aFOG,aWIND BLOWING FACE,aHOT DOG,aTACO,aBURRITO",
  "aCHESTNUT,aSEEDLING,aEVERGREEN TREE,aDECIDUOUS TREE,aPALM TREE,aCACTUS,aHOT PEPPER,aTULIP",
  "aCHERRY BLOSSOM,aROSE,aHIBISCUS,aSUNFLOWER,aBLOSSOM,aEAR OF MAIZE,cRICE,aHERB",
  "aFOUR LEAF CLOVER,aMAPLE LEAF,aFALLEN LEAF,aLEAF FLUTTERING IN WIND,aMUSHROOM,aTOMATO",
  "aAUBERGINE,aGRAPES,aMELON,aWATERMELON,aTANGERINE,aLEMON,aBANANA,aPINEAPPLE,aRED APPLE",
  "aGREEN APPLE,aPEAR,aPEACH,aCHERRIES,aSTRAWBERRY,aHAMBURGER,aSLICE OF PIZZA,aMEAT ON BONE",
  "aPOULTRY LEG,aRICE CRACKER,bBALL,aCOOKED RICE,aCURRY AND RICE,aSTEAMING BOWL,aSPAGHETTI,aBREAD",
  "aFRENCH FRIES,aROASTED SWEET POTATO,aDANGO,aODEN,aSUSHI,aFRIED SHRIMP",
  "aFISH CAKE WITH SWIRL DESIGN,aSOFT ICE CREAM,aSHAVED ICE,aICE CREAM,aDOUGHNUT,aCOOKIE",
  "aCHOCOLATE BAR,aCANDY,aLOLLIPOP,aCUSTARD,aHONEY POT,aSHORTCAKE,aBENTO BOX,aPOT OF FOOD",
  "aCOOKING,aFORK AND KNIFE,aTEACUP WITHOUT HANDLE,aSAKE BOTTLE AND CUP,aWINE GLASS",
  "aCOCKTAIL GLASS,aTROPICAL DRINK,aBEER MUG,aCLINKING BEER MUGS,aBABY BOTTLE",
  "aFORK AND KNIFE WITH PLATE,aBOTTLE WITH POPPING CORK,aPOPCORN,aRIBBON,aWRAPPED PRESENT",
  "aBIRTHDAY CAKE,aJACK-O-LANTERN,aCHRISTMAS TREE,aFATHER CHRISTMAS,aFIREWORKS,aFIREWORK SPARKLER",
  "aBALLOON,aPARTY POPPER,aCONFETTI BALL,aTANABATA TREE,aCROSSED FLAGS,aPINE DECORATION",
  "aJAPANESE DOLLS,aCARP STREAMER,aWIND CHIME,aMOON VIEWING CEREMONY,aSCHOOL SATCHEL",
  "aGRADUATION CAP,aHEART WITH TIP ON THE LEFT,aBOUQUET OF FLOWERS,aMILITARY MEDAL",
  "aREMINDER RIBBON,aMUSICAL KEYBOARD WITH JACKS,aSTUDIO MICROPHONE,aLEVEL SLIDER,aCONTROL KNOBS",
  "aBEAMED ASCENDING MUSICAL NOTES,bDESCENDING MUSICAL NOTES,aFILM FRAMES,aADMISSION TICKETS",
  "aCAROUSEL HORSE,aFERRIS WHEEL,aROLLER COASTER,aFISHING POLE AND FISH,aMICROPHONE,aMOVIE CAMERA",
  "aCINEMA,aHEADPHONE,aARTIST PALETTE,aTOP HAT,aCIRCUS TENT,aTICKET,aCLAPPER BOARD",
  "aPERFORMING ARTS,aVIDEO GAME,aDIRECT HIT,aSLOT MACHINE,aBILLIARDS,aGAME DIE,aBOWLING",
  "aFLOWER PLAYING CARDS,aMUSICAL NOTE,aMULTIPLE MUSICAL NOTES,aSAXOPHONE,aGUITAR",
  "aMUSICAL KEYBOARD,aTRUMPET,aVIOLIN,aMUSICAL SCORE,aRUNNING SHIRT WITH SASH",
  "aTENNIS RACQUET AND BALL,aSKI AND SKI BOOT,aBASKETBALL AND HOOP,aCHEQUERED FLAG,aSNOWBOARDER",
  "aRUNNER,aSURFER,aSPORTS MEDAL,aTROPHY,aHORSE RACING,aAMERICAN FOOTBALL,aRUGBY FOOTBALL",
  "aSWIMMER,aWEIGHT LIFTER,aGOLFER,aRACING MOTORCYCLE,bCAR,aCRICKET BAT AND BALL,aVOLLEYBALL",
  "aFIELD HOCKEY STICK AND BALL,aICE HOCKEY STICK AND PUCK,aTABLE TENNIS PADDLE AND BALL",
  "aSNOW CAPPED MOUNTAIN,aCAMPING,aBEACH WITH UMBRELLA,aBUILDING CONSTRUCTION,aHOUSE BUILDINGS",
  "aCITYSCAPE,aDERELICT HOUSE BUILDING,aCLASSICAL BUILDING,aDESERT,bISLAND,aNATIONAL PARK",
  "aSTADIUM,aHOUSE BUILDING,bWITH GARDEN,aOFFICE BUILDING,aJAPANESE POST OFFICE",
  "aEUROPEAN POST OFFICE,aHOSPITAL,aBANK,aAUTOMATED TELLER MACHINE,aHOTEL,aLOVE HOTEL",
  "aCONVENIENCE STORE,aSCHOOL,aDEPARTMENT STORE,aFACTORY,aIZAKAYA LANTERN,aJAPANESE CASTLE",
  "aEUROPEAN CASTLE,aWHITE PENNANT,aBLACK PENNANT,aWAVING WHITE FLAG,bBLACK FLAG,aROSETTE",
  "aBLACK ROSETTE,aLABEL,aBADMINTON RACQUET AND SHUTTLECOCK,aBOW AND ARROW,aAMPHORA",
  "aEMOJI MODIFIER FITZPATRICK TYPE-1-2,dTYPE-3,dTYPE-4,dTYPE-5,dTYPE-6,aRAT,aMOUSE,aOX",
  "aWATER BUFFALO,aCOW,aTIGER,aLEOPARD,aRABBIT,aCAT,aDRAGON,aCROCODILE,aWHALE,aSNAIL,aSNAKE",
  "aHORSE,aRAM,aGOAT,aSHEEP,aMONKEY,aROOSTER,aCHICKEN,aDOG,aPIG,aBOAR,aELEPHANT,aOCTOPUS",
  "aSPIRAL SHELL,aBUG,aANT,aHONEYBEE,aLADY BEETLE,aFISH,aTROPICAL FISH,aBLOWFISH,aTURTLE",
  "aHATCHING CHICK,aBABY CHICK,aFRONT-FACING BABY CHICK,aBIRD,aPENGUIN,aKOALA,aPOODLE",
  "aDROMEDARY CAMEL,aBACTRIAN CAMEL,aDOLPHIN,aMOUSE FACE,aCOW FACE,aTIGER FACE,aRABBIT FACE",
  "aCAT FACE,aDRAGON FACE,aSPOUTING WHALE,aHORSE FACE,aMONKEY FACE,aDOG FACE,aPIG FACE,aFROG FACE",
  "aHAMSTER FACE,aWOLF FACE,aBEAR FACE,aPANDA FACE,aPIG NOSE,aPAW PRINTS,aCHIPMUNK,aEYES,aEYE",
  "aEAR,aNOSE,aMOUTH,aTONGUE,aWHITE UP POINTING BACKHAND INDEX,bDOWN POINTING BACKHAND INDEX",
  "bLEFT POINTING BACKHAND INDEX,bRIGHT POINTING BACKHAND INDEX,aFISTED HAND SIGN",
  "aWAVING HAND SIGN,aOK HAND SIGN,aTHUMBS UP SIGN,bDOWN SIGN,aCLAPPING HANDS SIGN",
  "aOPEN HANDS SIGN,aCROWN,aWOMANS HAT,aEYEGLASSES,aNECKTIE,aT-SHIRT,aJEANS,aDRESS,aKIMONO",
  "aBIKINI,aWOMANS CLOTHES,aPURSE,aHANDBAG,aPOUCH,aMANS SHOE,aATHLETIC SHOE,aHIGH-HEELED SHOE",
  "aWOMANS SANDAL,bBOOTS,aFOOTPRINTS,aBUST IN SILHOUETTE,aBUSTS IN SILHOUETTE,aBOY,aGIRL,aMAN",
  "aWOMAN,aFAMILY,aMAN AND WOMAN HOLDING HANDS,aTWO MEN HOLDING HANDS,bWOMEN HOLDING HANDS",
  "aPOLICE OFFICER,aWOMAN WITH BUNNY EARS,aBRIDE WITH VEIL,aPERSON WITH BLOND HAIR",
  "aMAN WITH GUA PI MAO,cTURBAN,aOLDER MAN,bWOMAN,aBABY,aCONSTRUCTION WORKER,aPRINCESS",
  "aJAPANESE OGRE,bGOBLIN,aGHOST,aBABY ANGEL,aEXTRATERRESTRIAL ALIEN,aALIEN MONSTER,aIMP,aSKULL",
  "aINFORMATION DESK PERSON,aGUARDSMAN,aDANCER,aLIPSTICK,aNAIL POLISH,aFACE MASSAGE,aHAIRCUT",
  "aBARBER POLE,aSYRINGE,aPILL,aKISS MARK,aLOVE LETTER,aRING,aGEM STONE,aKISS,aBOUQUET",
  "aCOUPLE WITH HEART,aWEDDING,aBEATING HEART,aBROKEN HEART,aTWO HEARTS,aSPARKLING HEART",
  "aGROWING HEART,aHEART WITH ARROW,aBLUE HEART,aGREEN HEART,aYELLOW HEART,aPURPLE HEART",
  "aHEART WITH RIBBON,aREVOLVING HEARTS,aHEART DECORATION,aDIAMOND SHAPE WITH A DOT INSIDE",
  "aELECTRIC LIGHT BULB,aANGER SYMBOL,aBOMB,aSLEEPING SYMBOL,aCOLLISION SYMBOL",
  "aSPLASHING SWEAT SYMBOL,aDROPLET,aDASH SYMBOL,aPILE OF POO,aFLEXED BICEPS,aDIZZY SYMBOL",
  "aSPEECH BALLOON,aTHOUGHT BALLOON,aWHITE FLOWER,aHUNDRED POINTS SYMBOL,aMONEY BAG",
  "aCURRENCY EXCHANGE,aHEAVY DOLLAR SIGN,aCREDIT CARD,aBANKNOTE WITH YEN SIGN,cDOLLAR SIGN",
  "cEURO SIGN,cPOUND SIGN,aMONEY WITH WINGS,aCHART WITH UPWARDS TREND AND YEN SIGN,aSEAT",
  "aPERSONAL COMPUTER,aBRIEFCASE,aMINIDISC,aFLOPPY DISK,aOPTICAL DISC,aDVD,aFILE FOLDER",
  "aOPEN FILE FOLDER,aPAGE WITH CURL,bFACING UP,aCALENDAR,aTEAR-OFF CALENDAR,aCARD INDEX",
  "aCHART WITH UPWARDS TREND,cDOWNWARDS TREND,aBAR CHART,aCLIPBOARD,aPUSHPIN,aROUND PUSHPIN",
  "aPAPERCLIP,aSTRAIGHT RULER,aTRIANGULAR RULER,aBOOKMARK TABS,aLEDGER,aNOTEBOOK",
  "bWITH DECORATIVE COVER,aCLOSED BOOK,aOPEN BOOK,aGREEN BOOK,aBLUE BOOK,aORANGE BOOK,aBOOKS",
  "aNAME BADGE,aSCROLL,aMEMO,aTELEPHONE RECEIVER,aPAGER,aFAX MACHINE,aSATELLITE ANTENNA",
  "aPUBLIC ADDRESS LOUDSPEAKER,aCHEERING MEGAPHONE,aOUTBOX TRAY,aINBOX TRAY,aPACKAGE",
  "aE-MAIL SYMBOL,aINCOMING ENVELOPE,aENVELOPE WITH DOWNWARDS ARROW ABOVE",
  "aCLOSED MAILBOX WITH LOWERED FLAG,dRAISED FLAG,aOPEN MAILBOX WITH RAISED FLAG,dLOWERED FLAG",
  "aPOSTBOX,aPOSTAL HORN,aNEWSPAPER,aMOBILE PHONE,cWITH RIGHTWARDS ARROW AT LEFT,aVIBRATION MODE",
  "aMOBILE PHONE OFF,aNO MOBILE PHONES,aANTENNA WITH BARS,aCAMERA,bWITH FLASH,aVIDEO CAMERA",
  "aTELEVISION,aRADIO,aVIDEOCASSETTE,aFILM PROJECTOR,aPORTABLE STEREO,aPRAYER BEADS",
  "aTWISTED RIGHTWARDS ARROWS,aCLOCKWISE RIGHTWARDS AND LEFTWARDS OPEN CIRCLE ARROWS",
  "hWITH CIRCLED ONE OVERLAY,bDOWNWARDS AND UPWARDS OPEN CIRCLE ARROWS",
  "aANTICLOCKWISE DOWNWARDS AND UPWARDS OPEN CIRCLE ARROWS,aLOW BRIGHTNESS SYMBOL",
  "aHIGH BRIGHTNESS SYMBOL,aSPEAKER WITH CANCELLATION STROKE,aSPEAKER,bWITH ONE SOUND WAVE",
  "cTHREE SOUND WAVES,aBATTERY,aELECTRIC PLUG,aLEFT-POINTING MAGNIFYING GLASS",
  "aRIGHT-POINTING MAGNIFYING GLASS,aLOCK WITH INK PEN,aCLOSED LOCK WITH KEY,aKEY,aLOCK",
  "aOPEN LOCK,aBELL,bWITH CANCELLATION STROKE,aBOOKMARK,aLINK SYMBOL,aRADIO BUTTON",
  "aBACK WITH LEFTWARDS ARROW ABOVE,aEND WITH LEFTWARDS ARROW ABOVE",
  "aON WITH EXCLAMATION MARK WITH LEFT RIGHT ARROW ABOVE,aSOON WITH RIGHTWARDS ARROW ABOVE",
  "aTOP WITH UPWARDS ARROW ABOVE,aNO ONE UNDER EIGHTEEN SYMBOL,aKEYCAP TEN",
  "aINPUT SYMBOL FOR LATIN CAPITAL LETTERS,eSMALL LETTERS,dNUMBERS,dSYMBOLS,dLATIN LETTERS,aFIRE",
  "aELECTRIC TORCH,aWRENCH,aHAMMER,aNUT AND BOLT,aHOCHO,aPISTOL,aMICROSCOPE,aTELESCOPE",
  "aCRYSTAL BALL,aSIX POINTED STAR WITH MIDDLE DOT,aJAPANESE SYMBOL FOR BEGINNER,aTRIDENT EMBLEM",
  "aBLACK SQUARE BUTTON,aWHITE SQUARE BUTTON,aLARGE RED CIRCLE,bBLUE CIRCLE,bORANGE DIAMOND",
  "bBLUE DIAMOND,aSMALL ORANGE DIAMOND,bBLUE DIAMOND,aUP-POINTING RED TRIANGLE",
  "aDOWN-POINTING RED TRIANGLE,aUP-POINTING SMALL RED TRIANGLE,aDOWN-POINTING SMALL RED TRIANGLE",
  "aLOWER RIGHT SHADOWED WHITE CIRCLE,aUPPER RIGHT SHADOWED WHITE CIRCLE,aCIRCLED CROSS POMMEE",
  "aCROSS POMMEE WITH HALF-CIRCLE BELOW,bPOMMEE,aNOTCHED LEFT SEMICIRCLE WITH THREE DOTS",
  "bRIGHT SEMICIRCLE WITH THREE DOTS,aSYMBOL FOR MARKS CHAPTER,aWHITE LATIN CROSS",
  "aHEAVY LATIN CROSS,aCELTIC CROSS,aOM SYMBOL,aDOVE OF PEACE,aKAABA,aMOSQUE,aSYNAGOGUE",
  "aMENORAH WITH NINE BRANCHES,aBOWL OF HYGIEIA,aCLOCK FACE ONE OCLOCK,cTWO OCLOCK,cTHREE OCLOCK",
  "cFOUR OCLOCK,cFIVE OCLOCK,cSIX OCLOCK,cSEVEN OCLOCK,cEIGHT OCLOCK,cNINE OCLOCK,cTEN OCLOCK",
  "cELEVEN OCLOCK,cTWELVE OCLOCK,cONE-THIRTY,cTWO-THIRTY,cTHREE-THIRTY,cFOUR-THIRTY,cFIVE-THIRTY",
  "cSIX-THIRTY,cSEVEN-THIRTY,cEIGHT-THIRTY,cNINE-THIRTY,cTEN-THIRTY,cELEVEN-THIRTY,cTWELVE-THIRTY",
  "aRIGHT SPEAKER,cWITH ONE SOUND WAVE,dTHREE SOUND WAVES,aBULLHORN,bWITH SOUND WAVES",
  "aRINGING BELL,aBOOK,aCANDLE,aMANTELPIECE CLOCK,aBLACK SKULL AND CROSSBONES,aNO PIRACY,aHOLE",
  "aMAN IN BUSINESS SUIT LEVITATING,aSLEUTH OR SPY,aDARK SUNGLASSES,aSPIDER,bWEB,aJOYSTICK",
  "aMAN DANCING,aLEFT HAND TELEPHONE RECEIVER,aTELEPHONE RECEIVER WITH PAGE",
  "aRIGHT HAND TELEPHONE RECEIVER,aWHITE TOUCHTONE TELEPHONE,aBLACK TOUCHTONE TELEPHONE",
  "aTELEPHONE ON TOP OF MODEM,aCLAMSHELL MOBILE PHONE,aBACK OF ENVELOPE,aSTAMPED ENVELOPE",
  "aENVELOPE WITH LIGHTNING,aFLYING ENVELOPE,aPEN OVER STAMPED ENVELOPE,aLINKED PAPERCLIPS",
  "aBLACK PUSHPIN,aLOWER LEFT PENCIL,cBALLPOINT PEN,cFOUNTAIN PEN,cPAINTBRUSH,cCRAYON",
  "aLEFT WRITING HAND,aTURNED OK HAND SIGN,aRAISED HAND WITH FINGERS SPLAYED",
  "aREVERSED RAISED HAND WITH FINGERS SPLAYED,bTHUMBS UP SIGN,cDOWN SIGN,bVICTORY HAND",
  "bHAND WITH MIDDLE FINGER EXTENDED,aRAISED HAND WITH PART BETWEEN MIDDLE AND RING FINGERS",
  "aWHITE DOWN POINTING LEFT HAND INDEX,aSIDEWAYS WHITE LEFT POINTING INDEX,cRIGHT POINTING INDEX",
  "bBLACK LEFT POINTING INDEX,cRIGHT POINTING INDEX,aBLACK LEFT POINTING BACKHAND INDEX",
  "bRIGHT POINTING BACKHAND INDEX,aSIDEWAYS WHITE UP POINTING INDEX,cDOWN POINTING INDEX",
  "bBLACK UP POINTING INDEX,cDOWN POINTING INDEX,aBLACK UP POINTING BACKHAND INDEX",
  "bDOWN POINTING BACKHAND INDEX,bHEART,aDESKTOP COMPUTER,aKEYBOARD AND MOUSE",
  "aTHREE NETWORKED COMPUTERS,aPRINTER,aPOCKET CALCULATOR,aBLACK HARD SHELL FLOPPY DISK",
  "aWHITE HARD SHELL FLOPPY DISK,aSOFT SHELL FLOPPY DISK,aTAPE CARTRIDGE,aWIRED KEYBOARD",
  "aONE BUTTON MOUSE,aTWO BUTTON MOUSE,aTHREE BUTTON MOUSE,aTRACKBALL,aOLD PERSONAL COMPUTER",
  "aHARD DISK,aSCREEN,aPRINTER ICON,aFAX ICON,aOPTICAL DISC ICON,aDOCUMENT WITH TEXT,dAND PICTURE",
  "cPICTURE,aFRAME WITH PICTURE,cTILES,cAN X,aBLACK FOLDER,aFOLDER,aOPEN FOLDER",
  "aCARD INDEX DIVIDERS,bFILE BOX,aFILE CABINET,aEMPTY NOTE,cPAGE,cPAD,aNOTE,bPAGE,bPAD",
  "aEMPTY DOCUMENT,bPAGE,bPAGES,aDOCUMENT,aPAGE,aPAGES,aWASTEBASKET,aSPIRAL NOTE PAD",
  "bCALENDAR PAD,aDESKTOP WINDOW,aMINIMIZE,aMAXIMIZE,aOVERLAP",
  "aCLOCKWISE RIGHT AND LEFT SEMICIRCLE ARROWS,aCANCELLATION X,aINCREASE FONT SIZE SYMBOL",
  "aDECREASE FONT SIZE SYMBOL,aCOMPRESSION,aOLD KEY,aROLLED-UP NEWSPAPER,aPAGE WITH CIRCLED TEXT",
  "aSTOCK CHART,aDAGGER KNIFE,aLIPS,aSPEAKING HEAD IN SILHOUETTE,aTHREE RAYS ABOVE,cBELOW,cLEFT",
  "cRIGHT,aLEFT SPEECH BUBBLE,aRIGHT SPEECH BUBBLE,aTWO SPEECH BUBBLES,aTHREE SPEECH BUBBLES",
  "aLEFT THOUGHT BUBBLE,aRIGHT THOUGHT BUBBLE,aLEFT ANGER BUBBLE,aRIGHT ANGER BUBBLE,aMOOD BUBBLE",
  "aLIGHTNING MOOD BUBBLE,bMOOD,aBALLOT BOX WITH BALLOT,bSCRIPT X,bBOX WITH SCRIPT X",
  "bBOLD SCRIPT X,bBOX WITH BOLD SCRIPT X,aLIGHT CHECK MARK,aBALLOT BOX WITH BOLD CHECK",
  "aWORLD MAP,aMOUNT FUJI,aTOKYO TOWER,aSTATUE OF LIBERTY,aSILHOUETTE OF JAPAN,aMOYAI",
  "aGRINNING FACE,cWITH SMILING EYES,aFACE WITH TEARS OF JOY,aSMILING FACE WITH OPEN MOUTH",
  "fAND SMILING EYES,gCOLD SWEAT,gTIGHTLY-CLOSED EYES,dHALO,dHORNS,aWINKING FACE",
  "aSMILING FACE WITH SMILING EYES,aFACE SAVOURING DELICIOUS FOOD,aRELIEVED FACE",
  "aSMILING FACE WITH HEART-SHAPED EYES,dSUNGLASSES,aSMIRKING FACE,aNEUTRAL FACE",
  "aEXPRESSIONLESS FACE,aUNAMUSED FACE,aFACE WITH COLD SWEAT,aPENSIVE FACE,aCONFUSED FACE",
  "aCONFOUNDED FACE,aKISSING FACE,aFACE THROWING A KISS,aKISSING FACE WITH SMILING EYES",
  "dCLOSED EYES,aFACE WITH STUCK-OUT TONGUE,eAND WINKING EYE,fTIGHTLY-CLOSED EYES",
  "aDISAPPOINTED FACE,aWORRIED FACE,aANGRY FACE,aPOUTING FACE,aCRYING FACE,aPERSEVERING FACE",
  "aFACE WITH LOOK OF TRIUMPH,aDISAPPOINTED BUT RELIEVED FACE,aFROWNING FACE WITH OPEN MOUTH",
  "aANGUISHED FACE,aFEARFUL FACE,aWEARY FACE,aSLEEPY FACE,aTIRED FACE,aGRIMACING FACE",
  "aLOUDLY CRYING FACE,aFACE WITH OPEN MOUTH,aHUSHED FACE,aFACE WITH OPEN MOUTH AND COLD SWEAT",
  "bSCREAMING IN FEAR,aASTONISHED FACE,aFLUSHED FACE,aSLEEPING FACE,aDIZZY FACE",
  "aFACE WITHOUT MOUTH,bWITH MEDICAL MASK,aGRINNING CAT FACE WITH SMILING EYES",
  "aCAT FACE WITH TEARS OF JOY,aSMILING CAT FACE WITH OPEN MOUTH,eHEART-SHAPED EYES",
  "aCAT FACE WITH WRY SMILE,aKISSING CAT FACE WITH CLOSED EYES,aPOUTING CAT FACE,aCRYING CAT FACE",
  "aWEARY CAT FACE,aSLIGHTLY FROWNING FACE,bSMILING FACE,aUPSIDE-DOWN FACE",
  "aFACE WITH ROLLING EYES,cNO GOOD GESTURE,cOK GESTURE,aPERSON BOWING DEEPLY,aSEE-NO-EVIL MONKEY",
  "aHEAR-NO-EVIL MONKEY,aSPEAK-NO-EVIL MONKEY,aHAPPY PERSON RAISING ONE HAND",
  "aPERSON RAISING BOTH HANDS IN CELEBRATION,bFROWNING,bWITH POUTING FACE,cFOLDED HANDS",
  "aNORTH WEST POINTING LEAF,aSOUTH WEST POINTING LEAF,aNORTH EAST POINTING LEAF",
  "aSOUTH EAST POINTING LEAF,aTURNED NORTH WEST POINTING LEAF,bSOUTH WEST POINTING LEAF",
  "bNORTH EAST POINTING LEAF,bSOUTH EAST POINTING LEAF,aNORTH WEST POINTING VINE LEAF",
  "aSOUTH WEST POINTING VINE LEAF,aNORTH EAST POINTING VINE LEAF,aSOUTH EAST POINTING VINE LEAF",
  "aHEAVY NORTH WEST POINTING VINE LEAF,bSOUTH WEST POINTING VINE LEAF",
  "bNORTH EAST POINTING VINE LEAF,bSOUTH EAST POINTING VINE LEAF,aNORTH WEST POINTING BUD",
  "aSOUTH WEST POINTING BUD,aNORTH EAST POINTING BUD,aSOUTH EAST POINTING BUD",
  "aHEAVY NORTH WEST POINTING BUD,bSOUTH WEST POINTING BUD,bNORTH EAST POINTING BUD",
  "bSOUTH EAST POINTING BUD,aHOLLOW QUILT SQUARE ORNAMENT,eIN BLACK SQUARE",
  "aSOLID QUILT SQUARE ORNAMENT,eIN BLACK SQUARE,aLEFTWARDS ROCKET,aUPWARDS ROCKET",
  "aRIGHTWARDS ROCKET,aDOWNWARDS ROCKET,aSCRIPT LIGATURE ET ORNAMENT",
  "aHEAVY SCRIPT LIGATURE ET ORNAMENT,aLIGATURE OPEN ET ORNAMENT,aHEAVY LIGATURE OPEN ET ORNAMENT",
  "bAMPERSAND ORNAMENT,aSWASH AMPERSAND ORNAMENT",
  "aSANS-SERIF HEAVY DOUBLE TURNED COMMA QUOTATION MARK ORNAMENT,dCOMMA QUOTATION MARK ORNAMENT",
  "cLOW DOUBLE COMMA QUOTATION MARK ORNAMENT,aHEAVY INTERROBANG ORNAMENT",
  "aSANS-SERIF INTERROBANG ORNAMENT,aHEAVY SANS-SERIF INTERROBANG ORNAMENT,aVERY HEAVY SOLIDUS",
  "cREVERSE SOLIDUS,aCHECKER BOARD,aREVERSE CHECKER BOARD,aROCKET,aHELICOPTER,aSTEAM LOCOMOTIVE",
  "aRAILWAY CAR,aHIGH-SPEED TRAIN,cWITH BULLET NOSE,aTRAIN,aMETRO,aLIGHT RAIL,aSTATION,aTRAM,bCAR",
  "aBUS,aONCOMING BUS,aTROLLEYBUS,aBUS STOP,aMINIBUS,aAMBULANCE,aFIRE ENGINE,aPOLICE CAR",
  "aONCOMING POLICE CAR,aTAXI,aONCOMING TAXI,aAUTOMOBILE,aONCOMING AUTOMOBILE",
  "aRECREATIONAL VEHICLE,aDELIVERY TRUCK,aARTICULATED LORRY,aTRACTOR,aMONORAIL,aMOUNTAIN RAILWAY",
  "aSUSPENSION RAILWAY,aMOUNTAIN CABLEWAY,aAERIAL TRAMWAY,aSHIP,aROWBOAT,aSPEEDBOAT",
  "aHORIZONTAL TRAFFIC LIGHT,aVERTICAL TRAFFIC LIGHT,aCONSTRUCTION SIGN",
  "aPOLICE CARS REVOLVING LIGHT,aTRIANGULAR FLAG ON POST,aDOOR,aNO ENTRY SIGN,aSMOKING SYMBOL",
  "aNO SMOKING SYMBOL,aPUT LITTER IN ITS PLACE SYMBOL,aDO NOT LITTER SYMBOL,aPOTABLE WATER SYMBOL",
  "aNON-POTABLE WATER SYMBOL,aBICYCLE,aNO BICYCLES,aBICYCLIST,aMOUNTAIN BICYCLIST,aPEDESTRIAN",
  "aNO PEDESTRIANS,aCHILDREN CROSSING,aMENS SYMBOL,aWOMENS SYMBOL,aRESTROOM,aBABY SYMBOL,aTOILET",
  "aWATER CLOSET,aSHOWER,aBATH,aBATHTUB,aPASSPORT CONTROL,aCUSTOMS,aBAGGAGE CLAIM,aLEFT LUGGAGE",
  "aTRIANGLE WITH ROUNDED CORNERS,aPROHIBITED SIGN,aCIRCLED INFORMATION SOURCE,aBOYS SYMBOL",
  "aGIRLS SYMBOL,aCOUCH AND LAMP,aSLEEPING ACCOMMODATION,aSHOPPING BAGS,aBELLHOP BELL,aBED",
  "aPLACE OF WORSHIP,aOCTAGONAL SIGN,aSHOPPING TROLLEY,aSTUPA,aPAGODA,aHINDU TEMPLE,aHUT",
  "aELEVATOR,1f6dd:aPLAYGROUND SLIDE,aWHEEL,aRING BUOY,aHAMMER AND WRENCH,aSHIELD,aOIL DRUM",
  "aMOTORWAY,aRAILWAY TRACK,aMOTOR BOAT,aUP-POINTING MILITARY AIRPLANE,bAIRPLANE,bSMALL AIRPLANE",
  "aSMALL AIRPLANE,aNORTHEAST-POINTING AIRPLANE,aAIRPLANE DEPARTURE,bARRIVING,1f6f0:aSATELLITE",
  "aONCOMING FIRE ENGINE,aDIESEL LOCOMOTIVE,aPASSENGER SHIP,aSCOOTER,aMOTOR SCOOTER,aCANOE,aSLED",
  "aFLYING SAUCER,aSKATEBOARD,aAUTO RICKSHAW,aPICKUP TRUCK,aROLLER SKATE",
  "1f700:aALCHEMICAL SYMBOL FOR QUINTESSENCE,dAIR,dFIRE,dEARTH,dWATER,dAQUAFORTIS,dAQUA REGIA",
  "eREGIA-2,eVITAE,eVITAE-2,dVINEGAR,dVINEGAR-2,dVINEGAR-3,dSULFUR,dPHILOSOPHERS SULFUR",
  "dBLACK SULFUR,dMERCURY SUBLIMATE,eSUBLIMATE-2,eSUBLIMATE-3,dCINNABAR,dSALT,dNITRE,dVITRIOL",
  "dVITRIOL-2,dROCK SALT,eSALT-2,dGOLD,dSILVER,dIRON ORE,eORE-2,dCROCUS OF IRON,dREGULUS OF IRON",
  "dCOPPER ORE,dIRON-COPPER ORE,dSUBLIMATE OF COPPER,dCROCUS OF COPPER,fCOPPER-2",
  "dCOPPER ANTIMONIATE,dSALT OF COPPER ANTIMONIATE,dSUBLIMATE OF SALT OF COPPER,dVERDIGRIS",
  "dTIN ORE,dLEAD ORE,dANTIMONY ORE,dSUBLIMATE OF ANTIMONY,dSALT OF ANTIMONY",
  "dSUBLIMATE OF SALT OF ANTIMONY,dVINEGAR OF ANTIMONY,dREGULUS OF ANTIMONY,fANTIMONY-2,dREGULUS",
  "dREGULUS-2,dREGULUS-3,dREGULUS-4,dALKALI,dALKALI-2,dMARCASITE,dSAL-AMMONIAC,dARSENIC,dREALGAR",
  "dREALGAR-2,dAURIPIGMENT,dBISMUTH ORE,dTARTAR,dTARTAR-2,dQUICK LIME,dBORAX,dBORAX-2,dBORAX-3",
  "dALUM,dOIL,dSPIRIT,dTINCTURE,dGUM,dWAX,dPOWDER,dCALX,dTUTTY,dCAPUT MORTUUM,dSCEPTER OF JOVE",
  "dCADUCEUS,dTRIDENT,dSTARRED TRIDENT,dLODESTONE,dSOAP,dURINE,dHORSE DUNG,dASHES,dPOT ASHES",
  "dBRICK,dPOWDERED BRICK,dAMALGAM,dSTRATUM SUPER STRATUM,fSTRATUM-2,dSUBLIMATION,dPRECIPITATE",
  "dDISTILL,dDISSOLVE,dDISSOLVE-2,dPURIFY,dPUTREFACTION,dCRUCIBLE,dCRUCIBLE-2,dCRUCIBLE-3",
  "dCRUCIBLE-4,dCRUCIBLE-5,dALEMBIC,dBATH OF MARY,fVAPOURS,dRETORT,dHOUR,dNIGHT,dDAY-NIGHT,dMONTH",
  "dHALF DRAM,eOUNCE,1f780:aBLACK LEFT-POINTING ISOSCELES RIGHT TRIANGLE",
  "bUP-POINTING ISOSCELES RIGHT TRIANGLE,bRIGHT-POINTING ISOSCELES RIGHT TRIANGLE",
  "bDOWN-POINTING ISOSCELES RIGHT TRIANGLE,bSLIGHTLY SMALL CIRCLE,aMEDIUM BOLD WHITE CIRCLE",
  "aBOLD WHITE CIRCLE,aHEAVY WHITE CIRCLE,aVERY HEAVY WHITE CIRCLE,aEXTREMELY HEAVY WHITE CIRCLE",
  "aWHITE CIRCLE CONTAINING BLACK SMALL CIRCLE,aROUND TARGET,aBLACK TINY SQUARE",
  "bSLIGHTLY SMALL SQUARE,aLIGHT WHITE SQUARE,aMEDIUM WHITE SQUARE,aBOLD WHITE SQUARE",
  "aHEAVY WHITE SQUARE,aVERY HEAVY WHITE SQUARE,aEXTREMELY HEAVY WHITE SQUARE",
  "aWHITE SQUARE CONTAINING BLACK VERY SMALL SQUARE,eMEDIUM SQUARE,aSQUARE TARGET",
  "aBLACK TINY DIAMOND,bVERY SMALL DIAMOND,bMEDIUM SMALL DIAMOND",
  "aWHITE DIAMOND CONTAINING BLACK VERY SMALL DIAMOND,eMEDIUM DIAMOND,aDIAMOND TARGET",
  "aBLACK TINY LOZENGE,bVERY SMALL LOZENGE,bMEDIUM SMALL LOZENGE",
  "aWHITE LOZENGE CONTAINING BLACK SMALL LOZENGE,aTHIN GREEK CROSS,aLIGHT GREEK CROSS",
  "aMEDIUM GREEK CROSS,aBOLD GREEK CROSS,aVERY BOLD GREEK CROSS,bHEAVY GREEK CROSS",
  "aEXTREMELY HEAVY GREEK CROSS,aTHIN SALTIRE,aLIGHT SALTIRE,aMEDIUM SALTIRE,aBOLD SALTIRE",
  "aHEAVY SALTIRE,aVERY HEAVY SALTIRE,aEXTREMELY HEAVY SALTIRE,aLIGHT FIVE SPOKED ASTERISK",
  "aMEDIUM FIVE SPOKED ASTERISK,aBOLD FIVE SPOKED ASTERISK,aHEAVY FIVE SPOKED ASTERISK",
  "aVERY HEAVY FIVE SPOKED ASTERISK,aEXTREMELY HEAVY FIVE SPOKED ASTERISK",
  "aLIGHT SIX SPOKED ASTERISK,aMEDIUM SIX SPOKED ASTERISK,aBOLD SIX SPOKED ASTERISK",
  "aHEAVY SIX SPOKED ASTERISK,aVERY HEAVY SIX SPOKED ASTERISK",
  "aEXTREMELY HEAVY SIX SPOKED ASTERISK,aLIGHT EIGHT SPOKED ASTERISK",
  "aMEDIUM EIGHT SPOKED ASTERISK,aBOLD EIGHT SPOKED ASTERISK,aHEAVY EIGHT SPOKED ASTERISK",
  "aVERY HEAVY EIGHT SPOKED ASTERISK,aLIGHT THREE POINTED BLACK STAR",
  "aMEDIUM THREE POINTED BLACK STAR,aTHREE POINTED BLACK STAR,aMEDIUM THREE POINTED PINWHEEL STAR",
  "aLIGHT FOUR POINTED BLACK STAR,aMEDIUM FOUR POINTED BLACK STAR,aFOUR POINTED BLACK STAR",
  "aMEDIUM FOUR POINTED PINWHEEL STAR,aREVERSE LIGHT FOUR POINTED PINWHEEL STAR",
  "aLIGHT FIVE POINTED BLACK STAR,aHEAVY FIVE POINTED BLACK STAR,aMEDIUM SIX POINTED BLACK STAR",
  "aHEAVY SIX POINTED BLACK STAR,aSIX POINTED PINWHEEL STAR,aMEDIUM EIGHT POINTED BLACK STAR",
  "aHEAVY EIGHT POINTED BLACK STAR,aVERY HEAVY EIGHT POINTED BLACK STAR",
  "aHEAVY EIGHT POINTED PINWHEEL STAR,aLIGHT TWELVE POINTED BLACK STAR",
  "aHEAVY TWELVE POINTED BLACK STAR,dPINWHEEL STAR,aCIRCLED TRIANGLE,aNEGATIVE CIRCLED TRIANGLE",
  "aCIRCLED SQUARE,aNEGATIVE CIRCLED SQUARE,1f7e0:aLARGE ORANGE CIRCLE,bYELLOW CIRCLE",
  "bGREEN CIRCLE,bPURPLE CIRCLE,bBROWN CIRCLE,bRED SQUARE,bBLUE SQUARE,bORANGE SQUARE",
  "bYELLOW SQUARE,bGREEN SQUARE,bPURPLE SQUARE,bBROWN SQUARE,1f7f0:aHEAVY EQUALS SIGN",
  "1f800:aLEFTWARDS ARROW WITH SMALL TRIANGLE ARROWHEAD",
  "aUPWARDS ARROW WITH SMALL TRIANGLE ARROWHEAD,aRIGHTWARDS ARROW WITH SMALL TRIANGLE ARROWHEAD",
  "aDOWNWARDS ARROW WITH SMALL TRIANGLE ARROWHEAD,aLEFTWARDS ARROW WITH MEDIUM TRIANGLE ARROWHEAD",
  "aUPWARDS ARROW WITH MEDIUM TRIANGLE ARROWHEAD,aRIGHTWARDS ARROW WITH MEDIUM TRIANGLE ARROWHEAD",
  "aDOWNWARDS ARROW WITH MEDIUM TRIANGLE ARROWHEAD,aLEFTWARDS ARROW WITH LARGE TRIANGLE ARROWHEAD",
  "aUPWARDS ARROW WITH LARGE TRIANGLE ARROWHEAD,aRIGHTWARDS ARROW WITH LARGE TRIANGLE ARROWHEAD",
  "aDOWNWARDS ARROW WITH LARGE TRIANGLE ARROWHEAD",
  "1f810:aLEFTWARDS ARROW WITH SMALL EQUILATERAL ARROWHEAD",
  "aUPWARDS ARROW WITH SMALL EQUILATERAL ARROWHEAD",
  "aRIGHTWARDS ARROW WITH SMALL EQUILATERAL ARROWHEAD",
  "aDOWNWARDS ARROW WITH SMALL EQUILATERAL ARROWHEAD,aLEFTWARDS ARROW WITH EQUILATERAL ARROWHEAD",
  "aUPWARDS ARROW WITH EQUILATERAL ARROWHEAD,aRIGHTWARDS ARROW WITH EQUILATERAL ARROWHEAD",
  "aDOWNWARDS ARROW WITH EQUILATERAL ARROWHEAD,aHEAVY LEFTWARDS ARROW WITH EQUILATERAL ARROWHEAD",
  "bUPWARDS ARROW WITH EQUILATERAL ARROWHEAD,bRIGHTWARDS ARROW WITH EQUILATERAL ARROWHEAD",
  "bDOWNWARDS ARROW WITH EQUILATERAL ARROWHEAD,bLEFTWARDS ARROW WITH LARGE EQUILATERAL ARROWHEAD",
  "bUPWARDS ARROW WITH LARGE EQUILATERAL ARROWHEAD",
  "bRIGHTWARDS ARROW WITH LARGE EQUILATERAL ARROWHEAD",
  "bDOWNWARDS ARROW WITH LARGE EQUILATERAL ARROWHEAD",
  "aLEFTWARDS TRIANGLE-HEADED ARROW WITH NARROW SHAFT",
  "aUPWARDS TRIANGLE-HEADED ARROW WITH NARROW SHAFT",
  "aRIGHTWARDS TRIANGLE-HEADED ARROW WITH NARROW SHAFT",
  "aDOWNWARDS TRIANGLE-HEADED ARROW WITH NARROW SHAFT",
  "aLEFTWARDS TRIANGLE-HEADED ARROW WITH MEDIUM SHAFT",
  "aUPWARDS TRIANGLE-HEADED ARROW WITH MEDIUM SHAFT",
  "aRIGHTWARDS TRIANGLE-HEADED ARROW WITH MEDIUM SHAFT",
  "aDOWNWARDS TRIANGLE-HEADED ARROW WITH MEDIUM SHAFT",
  "aLEFTWARDS TRIANGLE-HEADED ARROW WITH BOLD SHAFT",
  "aUPWARDS TRIANGLE-HEADED ARROW WITH BOLD SHAFT",
  "aRIGHTWARDS TRIANGLE-HEADED ARROW WITH BOLD SHAFT",
  "aDOWNWARDS TRIANGLE-HEADED ARROW WITH BOLD SHAFT",
  "aLEFTWARDS TRIANGLE-HEADED ARROW WITH HEAVY SHAFT",
  "aUPWARDS TRIANGLE-HEADED ARROW WITH HEAVY SHAFT",
  "aRIGHTWARDS TRIANGLE-HEADED ARROW WITH HEAVY SHAFT",
  "aDOWNWARDS TRIANGLE-HEADED ARROW WITH HEAVY SHAFT",
  "aLEFTWARDS TRIANGLE-HEADED ARROW WITH VERY HEAVY SHAFT",
  "aUPWARDS TRIANGLE-HEADED ARROW WITH VERY HEAVY SHAFT",
  "aRIGHTWARDS TRIANGLE-HEADED ARROW WITH VERY HEAVY SHAFT",
  "aDOWNWARDS TRIANGLE-HEADED ARROW WITH VERY HEAVY SHAFT,aLEFTWARDS FINGER-POST ARROW",
  "aUPWARDS FINGER-POST ARROW,aRIGHTWARDS FINGER-POST ARROW,aDOWNWARDS FINGER-POST ARROW",
  "aLEFTWARDS SQUARED ARROW,aUPWARDS SQUARED ARROW,aRIGHTWARDS SQUARED ARROW",
  "aDOWNWARDS SQUARED ARROW,aLEFTWARDS COMPRESSED ARROW,aUPWARDS COMPRESSED ARROW",
  "aRIGHTWARDS COMPRESSED ARROW,aDOWNWARDS COMPRESSED ARROW,aLEFTWARDS HEAVY COMPRESSED ARROW",
  "aUPWARDS HEAVY COMPRESSED ARROW,aRIGHTWARDS HEAVY COMPRESSED ARROW",
  "aDOWNWARDS HEAVY COMPRESSED ARROW,aLEFTWARDS HEAVY ARROW,aUPWARDS HEAVY ARROW",
  "aRIGHTWARDS HEAVY ARROW,aDOWNWARDS HEAVY ARROW,1f850:aLEFTWARDS SANS-SERIF ARROW",
  "aUPWARDS SANS-SERIF ARROW,aRIGHTWARDS SANS-SERIF ARROW,aDOWNWARDS SANS-SERIF ARROW",
  "aNORTH WEST SANS-SERIF ARROW,bEAST SANS-SERIF ARROW,aSOUTH EAST SANS-SERIF ARROW",
  "bWEST SANS-SERIF ARROW,aLEFT RIGHT SANS-SERIF ARROW,aUP DOWN SANS-SERIF ARROW",
  "1f860:aWIDE-HEADED LEFTWARDS LIGHT BARB ARROW,bUPWARDS LIGHT BARB ARROW",
  "bRIGHTWARDS LIGHT BARB ARROW,bDOWNWARDS LIGHT BARB ARROW,bNORTH WEST LIGHT BARB ARROW",
  "cEAST LIGHT BARB ARROW,bSOUTH EAST LIGHT BARB ARROW,cWEST LIGHT BARB ARROW",
  "bLEFTWARDS BARB ARROW,bUPWARDS BARB ARROW,bRIGHTWARDS BARB ARROW,bDOWNWARDS BARB ARROW",
  "bNORTH WEST BARB ARROW,cEAST BARB ARROW,bSOUTH EAST BARB ARROW,cWEST BARB ARROW",
  "bLEFTWARDS MEDIUM BARB ARROW,bUPWARDS MEDIUM BARB ARROW,bRIGHTWARDS MEDIUM BARB ARROW",
  "bDOWNWARDS MEDIUM BARB ARROW,bNORTH WEST MEDIUM BARB ARROW,cEAST MEDIUM BARB ARROW",
  "bSOUTH EAST MEDIUM BARB ARROW,cWEST MEDIUM BARB ARROW,bLEFTWARDS HEAVY BARB ARROW",
  "bUPWARDS HEAVY BARB ARROW,bRIGHTWARDS HEAVY BARB ARROW,bDOWNWARDS HEAVY BARB ARROW",
  "bNORTH WEST HEAVY BARB ARROW,cEAST HEAVY BARB ARROW,bSOUTH EAST HEAVY BARB ARROW",
  "cWEST HEAVY BARB ARROW,bLEFTWARDS VERY HEAVY BARB ARROW,bUPWARDS VERY HEAVY BARB ARROW",
  "bRIGHTWARDS VERY HEAVY BARB ARROW,bDOWNWARDS VERY HEAVY BARB ARROW",
  "bNORTH WEST VERY HEAVY BARB ARROW,cEAST VERY HEAVY BARB ARROW",
  "bSOUTH EAST VERY HEAVY BARB ARROW,cWEST VERY HEAVY BARB ARROW",
  "1f890:aLEFTWARDS TRIANGLE ARROWHEAD,aUPWARDS TRIANGLE ARROWHEAD,aRIGHTWARDS TRIANGLE ARROWHEAD",
  "aDOWNWARDS TRIANGLE ARROWHEAD,aLEFTWARDS WHITE ARROW WITHIN TRIANGLE ARROWHEAD",
  "aUPWARDS WHITE ARROW WITHIN TRIANGLE ARROWHEAD",
  "aRIGHTWARDS WHITE ARROW WITHIN TRIANGLE ARROWHEAD",
  "aDOWNWARDS WHITE ARROW WITHIN TRIANGLE ARROWHEAD,aLEFTWARDS ARROW WITH NOTCHED TAIL",
  "aUPWARDS ARROW WITH NOTCHED TAIL,aRIGHTWARDS ARROW WITH NOTCHED TAIL",
  "aDOWNWARDS ARROW WITH NOTCHED TAIL,aHEAVY ARROW SHAFT WIDTH ONE,eTWO THIRDS,eONE HALF,fTHIRD",
  "aLEFTWARDS BOTTOM-SHADED WHITE ARROW,aRIGHTWARDS BOTTOM SHADED WHITE ARROW",
  "aLEFTWARDS TOP SHADED WHITE ARROW,aRIGHTWARDS TOP SHADED WHITE ARROW",
  "aLEFTWARDS LEFT-SHADED WHITE ARROW,aRIGHTWARDS RIGHT-SHADED WHITE ARROW",
  "aLEFTWARDS RIGHT-SHADED WHITE ARROW,aRIGHTWARDS LEFT-SHADED WHITE ARROW",
  "aLEFTWARDS BACK-TILTED SHADOWED WHITE ARROW,aRIGHTWARDS BACK-TILTED SHADOWED WHITE ARROW",
  "aLEFTWARDS FRONT-TILTED SHADOWED WHITE ARROW,aRIGHTWARDS FRONT-TILTED SHADOWED WHITE ARROW",
  "aWHITE ARROW SHAFT WIDTH ONE,eTWO THIRDS,1f8b0:aARROW POINTING UPWARDS THEN NORTH WEST",
  "cRIGHTWARDS THEN CURVING SOUTH WEST,1f900:aCIRCLED CROSS FORMEE WITH FOUR DOTS,eTWO DOTS",
  "cFORMEE,aLEFT HALF CIRCLE WITH FOUR DOTS,eTHREE DOTS,eTWO DOTS,eDOT,cCIRCLE",
  "aDOWNWARD FACING HOOK,cNOTCHED HOOK,cHOOK WITH DOT,cNOTCHED HOOK WITH DOT,aPINCHED FINGERS",
  "aWHITE HEART,aBROWN HEART,aPINCHING HAND,aZIPPER-MOUTH FACE,aMONEY-MOUTH FACE",
  "aFACE WITH THERMOMETER,aNERD FACE,aTHINKING FACE,aFACE WITH HEAD-BANDAGE,aROBOT FACE",
  "aHUGGING FACE,aSIGN OF THE HORNS,aCALL ME HAND,aRAISED BACK OF HAND,aLEFT-FACING FIST",
  "aRIGHT-FACING FIST,aHANDSHAKE,aHAND WITH INDEX AND MIDDLE FINGERS CROSSED",
  "aI LOVE YOU HAND SIGN,aFACE WITH COWBOY HAT,aCLOWN FACE,aNAUSEATED FACE",
  "aROLLING ON THE FLOOR LAUGHING,aDROOLING FACE,aLYING FACE,aFACE PALM,aSNEEZING FACE",
  "aFACE WITH ONE EYEBROW RAISED,aGRINNING FACE WITH STAR EYES,dONE LARGE AND ONE SMALL EYE",
  "aFACE WITH FINGER COVERING CLOSED LIPS,aSERIOUS FACE WITH SYMBOLS COVERING MOUTH",
  "aSMILING FACE WITH SMILING EYES AND HAND COVERING MOUTH,aFACE WITH OPEN MOUTH VOMITING",
  "aSHOCKED FACE WITH EXPLODING HEAD,aPREGNANT WOMAN,aBREAST-FEEDING,aPALMS UP TOGETHER,aSELFIE",
  "aPRINCE,aMAN IN TUXEDO,aMOTHER CHRISTMAS,aSHRUG,aPERSON DOING CARTWHEEL,aJUGGLING,aFENCER",
  "aMODERN PENTATHLON,aWRESTLERS,aWATER POLO,aHANDBALL,aDIVING MASK,aWILTED FLOWER",
  "aDRUM WITH DRUMSTICKS,aCLINKING GLASSES,aTUMBLER GLASS,aSPOON,aGOAL NET,aRIFLE",
  "aFIRST PLACE MEDAL,aSECOND PLACE MEDAL,aTHIRD PLACE MEDAL,aBOXING GLOVE,aMARTIAL ARTS UNIFORM",
  "aCURLING STONE,aLACROSSE STICK AND BALL,aSOFTBALL,aFLYING DISC,aCROISSANT,aAVOCADO,aCUCUMBER",
  "aBACON,aPOTATO,aCARROT,aBAGUETTE BREAD,aGREEN SALAD,aSHALLOW PAN OF FOOD,aSTUFFED FLATBREAD",
  "aEGG,aGLASS OF MILK,aPEANUTS,aKIWIFRUIT,aPANCAKES,aDUMPLING,aFORTUNE COOKIE,aTAKEOUT BOX",
  "aCHOPSTICKS,aBOWL WITH SPOON,aCUP WITH STRAW,aCOCONUT,aBROCCOLI,aPIE,aPRETZEL,aCUT OF MEAT",
  "aSANDWICH,aCANNED FOOD,aLEAFY GREEN,aMANGO,aMOON CAKE,aBAGEL",
  "aSMILING FACE WITH SMILING EYES AND THREE HEARTS,aYAWNING FACE,aSMILING FACE WITH TEAR",
  "aFACE WITH PARTY HORN AND PARTY HAT,cUNEVEN EYES AND WAVY MOUTH,aOVERHEATED FACE",
  "aFREEZING FACE,aNINJA,aDISGUISED FACE,aFACE HOLDING BACK TEARS,bWITH PLEADING EYES,aSARI",
  "aLAB COAT,aGOGGLES,aHIKING BOOT,aFLAT SHOE,aCRAB,aLION FACE,aSCORPION,aTURKEY,aUNICORN FACE",
  "aEAGLE,aDUCK,aBAT,aSHARK,aOWL,aFOX FACE,aBUTTERFLY,aDEER,aGORILLA,aLIZARD,aRHINOCEROS,aSHRIMP",
  "aSQUID,aGIRAFFE FACE,aZEBRA FACE,aHEDGEHOG,aSAUROPOD,aT-REX,aCRICKET,aKANGAROO,aLLAMA,aPEACOCK",
  "aHIPPOPOTAMUS,aPARROT,aRACCOON,aLOBSTER,aMOSQUITO,aMICROBE,aBADGER,aSWAN,aMAMMOTH,aDODO,aSLOTH",
  "aOTTER,aORANGUTAN,aSKUNK,aFLAMINGO,aOYSTER,aBEAVER,aBISON,aSEAL,aGUIDE DOG,aPROBING CANE",
  "aEMOJI COMPONENT RED HAIR,cCURLY HAIR,cBALD,cWHITE HAIR,aBONE,aLEG,aFOOT,aTOOTH,aSUPERHERO",
  "aSUPERVILLAIN,aSAFETY VEST,aEAR WITH HEARING AID,aMOTORIZED WHEELCHAIR,aMANUAL WHEELCHAIR",
  "aMECHANICAL ARM,bLEG,aCHEESE WEDGE,aCUPCAKE,aSALT SHAKER,aBEVERAGE BOX,aGARLIC,aONION,aFALAFEL",
  "aWAFFLE,aBUTTER,aMATE DRINK,aICE CUBE,aBUBBLE TEA,aTROLL,aSTANDING PERSON,aKNEELING PERSON",
  "aDEAF PERSON,aFACE WITH MONOCLE,aADULT,aCHILD,aOLDER ADULT,aBEARDED PERSON",
  "aPERSON WITH HEADSCARF,bIN STEAMY ROOM,bCLIMBING,bIN LOTUS POSITION,aMAGE,aFAIRY,aVAMPIRE",
  "aMERPERSON,aELF,aGENIE,aZOMBIE,aBRAIN,aORANGE HEART,aBILLED CAP,aSCARF,aGLOVES,aCOAT,aSOCKS",
  "aRED GIFT ENVELOPE,aFIRECRACKER,aJIGSAW PUZZLE PIECE,aTEST TUBE,aPETRI DISH,aDNA DOUBLE HELIX",
  "aCOMPASS,aABACUS,aFIRE EXTINGUISHER,aTOOLBOX,aBRICK,aMAGNET,aLUGGAGE,aLOTION BOTTLE",
  "aSPOOL OF THREAD,aBALL OF YARN,aSAFETY PIN,aTEDDY BEAR,aBROOM,aBASKET,aROLL OF PAPER",
  "aBAR OF SOAP,aSPONGE,aRECEIPT,aNAZAR AMULET,aNEUTRAL CHESS KING,cQUEEN,cROOK,cBISHOP,cKNIGHT",
  "cPAWN,aWHITE CHESS KNIGHT ROTATED FORTY-FIVE DEGREES",
  "aBLACK CHESS KNIGHT ROTATED FORTY-FIVE DEGREES",
  "aNEUTRAL CHESS KNIGHT ROTATED FORTY-FIVE DEGREES,aWHITE CHESS KING ROTATED NINETY DEGREES",
  "cQUEEN ROTATED NINETY DEGREES,cROOK ROTATED NINETY DEGREES,cBISHOP ROTATED NINETY DEGREES",
  "cKNIGHT ROTATED NINETY DEGREES,cPAWN ROTATED NINETY DEGREES",
  "aBLACK CHESS KING ROTATED NINETY DEGREES,cQUEEN ROTATED NINETY DEGREES",
  "cROOK ROTATED NINETY DEGREES,cBISHOP ROTATED NINETY DEGREES,cKNIGHT ROTATED NINETY DEGREES",
  "cPAWN ROTATED NINETY DEGREES,aNEUTRAL CHESS KING ROTATED NINETY DEGREES",
  "cQUEEN ROTATED NINETY DEGREES,cROOK ROTATED NINETY DEGREES,cBISHOP ROTATED NINETY DEGREES",
  "cKNIGHT ROTATED NINETY DEGREES,cPAWN ROTATED NINETY DEGREES",
  "aWHITE CHESS KNIGHT ROTATED ONE HUNDRED THIRTY-FIVE DEGREES",
  "aBLACK CHESS KNIGHT ROTATED ONE HUNDRED THIRTY-FIVE DEGREES",
  "aNEUTRAL CHESS KNIGHT ROTATED ONE HUNDRED THIRTY-FIVE DEGREES,aWHITE CHESS TURNED KING,dQUEEN",
  "dROOK,dBISHOP,dKNIGHT,dPAWN,aBLACK CHESS TURNED KING,dQUEEN,dROOK,dBISHOP,dKNIGHT,dPAWN",
  "aNEUTRAL CHESS TURNED KING,dQUEEN,dROOK,dBISHOP,dKNIGHT,dPAWN",
  "aWHITE CHESS KNIGHT ROTATED TWO HUNDRED TWENTY-FIVE DEGREES",
  "aBLACK CHESS KNIGHT ROTATED TWO HUNDRED TWENTY-FIVE DEGREES",
  "aNEUTRAL CHESS KNIGHT ROTATED TWO HUNDRED TWENTY-FIVE DEGREES",
  "aWHITE CHESS KING ROTATED TWO HUNDRED SEVENTY DEGREES",
  "cQUEEN ROTATED TWO HUNDRED SEVENTY DEGREES,cROOK ROTATED TWO HUNDRED SEVENTY DEGREES",
  "cBISHOP ROTATED TWO HUNDRED SEVENTY DEGREES,cKNIGHT ROTATED TWO HUNDRED SEVENTY DEGREES",
  "cPAWN ROTATED TWO HUNDRED SEVENTY DEGREES",
  "aBLACK CHESS KING ROTATED TWO HUNDRED SEVENTY DEGREES",
  "cQUEEN ROTATED TWO HUNDRED SEVENTY DEGREES,cROOK ROTATED TWO HUNDRED SEVENTY DEGREES",
  "cBISHOP ROTATED TWO HUNDRED SEVENTY DEGREES,cKNIGHT ROTATED TWO HUNDRED SEVENTY DEGREES",
  "cPAWN ROTATED TWO HUNDRED SEVENTY DEGREES",
  "aNEUTRAL CHESS KING ROTATED TWO HUNDRED SEVENTY DEGREES",
  "cQUEEN ROTATED TWO HUNDRED SEVENTY DEGREES,cROOK ROTATED TWO HUNDRED SEVENTY DEGREES",
  "cBISHOP ROTATED TWO HUNDRED SEVENTY DEGREES,cKNIGHT ROTATED TWO HUNDRED SEVENTY DEGREES",
  "cPAWN ROTATED TWO HUNDRED SEVENTY DEGREES",
  "aWHITE CHESS KNIGHT ROTATED THREE HUNDRED FIFTEEN DEGREES",
  "aBLACK CHESS KNIGHT ROTATED THREE HUNDRED FIFTEEN DEGREES",
  "aNEUTRAL CHESS KNIGHT ROTATED THREE HUNDRED FIFTEEN DEGREES,aWHITE CHESS EQUIHOPPER",
  "aBLACK CHESS EQUIHOPPER,aNEUTRAL CHESS EQUIHOPPER",
  "aWHITE CHESS EQUIHOPPER ROTATED NINETY DEGREES,aBLACK CHESS EQUIHOPPER ROTATED NINETY DEGREES",
  "aNEUTRAL CHESS EQUIHOPPER ROTATED NINETY DEGREES,aWHITE CHESS KNIGHT-QUEEN,cKNIGHT-ROOK",
  "cKNIGHT-BISHOP,aBLACK CHESS KNIGHT-QUEEN,cKNIGHT-ROOK,cKNIGHT-BISHOP",
  "1fa60:aXIANGQI RED GENERAL,cMANDARIN,cELEPHANT,cHORSE,cCHARIOT,cCANNON,cSOLDIER,bBLACK GENERAL",
  "cMANDARIN,cELEPHANT,cHORSE,cCHARIOT,cCANNON,cSOLDIER,1fa70:aBALLET SHOES,aONE-PIECE SWIMSUIT",
  "aBRIEFS,aSHORTS,aTHONG SANDAL,1fa78:aDROP OF BLOOD,aADHESIVE BANDAGE,aSTETHOSCOPE,aX-RAY",
  "aCRUTCH,1fa80:aYO-YO,aKITE,aPARACHUTE,aBOOMERANG,aMAGIC WAND,aPINATA,aNESTING DOLLS",
  "1fa90:aRINGED PLANET,aCHAIR,aRAZOR,aAXE,aDIYA LAMP,aBANJO,aMILITARY HELMET,aACCORDION",
  "aLONG DRUM,aCOIN,aCARPENTRY SAW,aSCREWDRIVER,aLADDER,aHOOK,aMIRROR,aWINDOW,aPLUNGER",
  "aSEWING NEEDLE,aKNOT,aBUCKET,aMOUSE TRAP,aTOOTHBRUSH,aHEADSTONE,aPLACARD,aROCK,aMIRROR BALL",
  "aIDENTIFICATION CARD,aLOW BATTERY,aHAMSA,1fab0:aFLY,aWORM,aBEETLE,aCOCKROACH,aPOTTED PLANT",
  "aWOOD,aFEATHER,aLOTUS,aCORAL,aEMPTY NEST,aNEST WITH EGGS,1fac0:aANATOMICAL HEART,aLUNGS",
  "aPEOPLE HUGGING,aPREGNANT MAN,bPERSON,aPERSON WITH CROWN,1fad0:aBLUEBERRIES,aBELL PEPPER",
  "aOLIVE,aFLATBREAD,aTAMALE,aFONDUE,aTEAPOT,aPOURING LIQUID,aBEANS,aJAR,1fae0:aMELTING FACE",
  "aSALUTING FACE,aFACE WITH OPEN EYES AND HAND OVER MOUTH,cPEEKING EYE,cDIAGONAL MOUTH",
  "aDOTTED LINE FACE,aBITING LIP,aBUBBLES,1faf0:aHAND WITH INDEX FINGER AND THUMB CROSSED",
  "aRIGHTWARDS HAND,aLEFTWARDS HAND,aPALM DOWN HAND,bUP HAND,aINDEX POINTING AT THE VIEWER",
  "aHEART HANDS,1fb00:aBLOCK SEXTANT-1,bSEXTANT-2,bSEXTANT-12,bSEXTANT-3,bSEXTANT-13,bSEXTANT-23",
  "bSEXTANT-123,bSEXTANT-4,bSEXTANT-14,bSEXTANT-24,bSEXTANT-124,bSEXTANT-34,bSEXTANT-134",
  "bSEXTANT-234,bSEXTANT-1234,bSEXTANT-5,bSEXTANT-15,bSEXTANT-25,bSEXTANT-125,bSEXTANT-35",
  "bSEXTANT-235,bSEXTANT-1235,bSEXTANT-45,bSEXTANT-145,bSEXTANT-245,bSEXTANT-1245,bSEXTANT-345",
  "bSEXTANT-1345,bSEXTANT-2345,bSEXTANT-12345,bSEXTANT-6,bSEXTANT-16,bSEXTANT-26,bSEXTANT-126",
  "bSEXTANT-36,bSEXTANT-136,bSEXTANT-236,bSEXTANT-1236,bSEXTANT-46,bSEXTANT-146,bSEXTANT-1246",
  "bSEXTANT-346,bSEXTANT-1346,bSEXTANT-2346,bSEXTANT-12346,bSEXTANT-56,bSEXTANT-156,bSEXTANT-256",
  "bSEXTANT-1256,bSEXTANT-356,bSEXTANT-1356,bSEXTANT-2356,bSEXTANT-12356,bSEXTANT-456",
  "bSEXTANT-1456,bSEXTANT-2456,bSEXTANT-12456,bSEXTANT-3456,bSEXTANT-13456,bSEXTANT-23456",
  "aLOWER LEFT BLOCK DIAGONAL LOWER MIDDLE LEFT TO LOWER CENTRE,jRIGHT",
  "eUPPER MIDDLE LEFT TO LOWER CENTRE,jRIGHT,fLEFT TO LOWER CENTRE",
  "bRIGHT BLOCK DIAGONAL UPPER MIDDLE LEFT TO UPPER CENTRE,jRIGHT",
  "eLOWER MIDDLE LEFT TO UPPER CENTRE,jRIGHT,fLEFT TO UPPER CENTRE",
  "fMIDDLE LEFT TO UPPER MIDDLE RIGHT,fCENTRE TO LOWER MIDDLE RIGHT,fLEFT TO LOWER MIDDLE RIGHT",
  "fCENTRE TO UPPER MIDDLE RIGHT,fLEFT TO UPPER MIDDLE RIGHT,fCENTRE TO UPPER RIGHT",
  "bLEFT BLOCK DIAGONAL UPPER CENTRE TO UPPER MIDDLE RIGHT,fLEFT TO UPPER MIDDLE RIGHT",
  "fCENTRE TO LOWER MIDDLE RIGHT,fLEFT TO LOWER MIDDLE RIGHT,fCENTRE TO LOWER RIGHT",
  "fMIDDLE LEFT TO LOWER MIDDLE RIGHT",
  "aUPPER RIGHT BLOCK DIAGONAL LOWER MIDDLE LEFT TO LOWER CENTRE,jRIGHT",
  "eUPPER MIDDLE LEFT TO LOWER CENTRE,jRIGHT,fLEFT TO LOWER CENTRE",
  "bLEFT BLOCK DIAGONAL UPPER MIDDLE LEFT TO UPPER CENTRE,jRIGHT",
  "eLOWER MIDDLE LEFT TO UPPER CENTRE,jRIGHT,fLEFT TO UPPER CENTRE",
  "fMIDDLE LEFT TO UPPER MIDDLE RIGHT,fCENTRE TO LOWER MIDDLE RIGHT,fLEFT TO LOWER MIDDLE RIGHT",
  "fCENTRE TO UPPER MIDDLE RIGHT,fLEFT TO UPPER MIDDLE RIGHT,fCENTRE TO UPPER RIGHT",
  "bRIGHT BLOCK DIAGONAL UPPER CENTRE TO UPPER MIDDLE RIGHT,fLEFT TO UPPER MIDDLE RIGHT",
  "fCENTRE TO LOWER MIDDLE RIGHT,fLEFT TO LOWER MIDDLE RIGHT,fCENTRE TO LOWER RIGHT",
  "fMIDDLE LEFT TO LOWER MIDDLE RIGHT,bAND RIGHT AND LOWER TRIANGULAR THREE QUARTERS BLOCK",
  "aLEFT AND LOWER AND RIGHT TRIANGULAR THREE QUARTERS BLOCK",
  "aUPPER AND LEFT AND LOWER TRIANGULAR THREE QUARTERS BLOCK",
  "aLEFT AND UPPER AND RIGHT TRIANGULAR THREE QUARTERS BLOCK,bTRIANGULAR ONE QUARTER BLOCK",
  "aUPPER TRIANGULAR ONE QUARTER BLOCK,aRIGHT TRIANGULAR ONE QUARTER BLOCK",
  "aLOWER TRIANGULAR ONE QUARTER BLOCK,aVERTICAL ONE EIGHTH BLOCK-2,dBLOCK-3,dBLOCK-4,dBLOCK-5",
  "dBLOCK-6,dBLOCK-7,aHORIZONTAL ONE EIGHTH BLOCK-2,dBLOCK-3,dBLOCK-4,dBLOCK-5,dBLOCK-6,dBLOCK-7",
  "aLEFT AND LOWER ONE EIGHTH BLOCK,cUPPER ONE EIGHTH BLOCK,aRIGHT AND UPPER ONE EIGHTH BLOCK",
  "cLOWER ONE EIGHTH BLOCK,aUPPER AND LOWER ONE EIGHTH BLOCK,aHORIZONTAL ONE EIGHTH BLOCK-1358",
  "aUPPER ONE QUARTER BLOCK,bTHREE EIGHTHS BLOCK,bFIVE EIGHTHS BLOCK,bTHREE QUARTERS BLOCK",
  "bSEVEN EIGHTHS BLOCK,aRIGHT ONE QUARTER BLOCK,bTHREE EIGHTHS BLOCK,bFIVE EIGHTHS BLOCK",
  "bTHREE QUARTERS BLOCK,bSEVEN EIGHTHS BLOCK,aLEFT HALF MEDIUM SHADE,aRIGHT HALF MEDIUM SHADE",
  "aUPPER HALF MEDIUM SHADE,aLOWER HALF MEDIUM SHADE,aINVERSE MEDIUM SHADE",
  "aUPPER HALF BLOCK AND LOWER HALF INVERSE MEDIUM SHADE",
  "cINVERSE MEDIUM SHADE AND LOWER HALF BLOCK",
  "1fb94:aLEFT HALF INVERSE MEDIUM SHADE AND RIGHT HALF BLOCK,aCHECKER BOARD FILL",
  "aINVERSE CHECKER BOARD FILL,aHEAVY HORIZONTAL FILL,aUPPER LEFT TO LOWER RIGHT FILL",
  "bRIGHT TO LOWER LEFT FILL,bAND LOWER TRIANGULAR HALF BLOCK",
  "aLEFT AND RIGHT TRIANGULAR HALF BLOCK,aUPPER LEFT TRIANGULAR MEDIUM SHADE",
  "bRIGHT TRIANGULAR MEDIUM SHADE,aLOWER RIGHT TRIANGULAR MEDIUM SHADE",
  "bLEFT TRIANGULAR MEDIUM SHADE,aBOX DRAWINGS LIGHT DIAGONAL UPPER CENTRE TO MIDDLE LEFT,iRIGHT",
  "eMIDDLE LEFT TO LOWER CENTRE,fRIGHT TO LOWER CENTRE",
  "eUPPER CENTRE TO MIDDLE LEFT TO LOWER CENTRE,iRIGHT TO LOWER CENTRE",
  "eMIDDLE LEFT TO LOWER CENTRE TO MIDDLE RIGHT,hUPPER CENTRE TO MIDDLE RIGHT",
  "eUPPER CENTRE TO MIDDLE LEFT AND MIDDLE RIGHT TO LOWER CENTRE",
  "iRIGHT AND MIDDLE LEFT TO LOWER CENTRE,jTO LOWER CENTRE TO MIDDLE LEFT",
  "iLEFT TO LOWER CENTRE TO MIDDLE RIGHT",
  "eMIDDLE LEFT TO UPPER CENTRE TO MIDDLE RIGHT TO LOWER CENTRE",
  "fRIGHT TO UPPER CENTRE TO MIDDLE LEFT TO LOWER CENTRE,eDIAMOND",
  "dHORIZONTAL WITH VERTICAL STROKE,aARROWHEAD-SHAPED POINTER,aINVERSE CHECK MARK",
  "aLEFT HALF RUNNING MAN,aRIGHT HALF RUNNING MAN,aINVERSE DOWNWARDS ARROW WITH TIP LEFTWARDS",
  "aLEFTWARDS ARROW AND UPPER AND LOWER ONE EIGHTH BLOCK",
  "aRIGHTWARDS ARROW AND UPPER AND LOWER ONE EIGHTH BLOCK",
  "aDOWNWARDS ARROW AND RIGHT ONE EIGHTH BLOCK,aUPWARDS ARROW AND RIGHT ONE EIGHTH BLOCK",
  "aLEFT HALF FOLDER,aRIGHT HALF FOLDER,aVOIDED GREEK CROSS,aRIGHT OPEN SQUARED DOT",
  "aNEGATIVE DIAGONAL CROSS,cMIDDLE RIGHT TO LOWER CENTRE,cDIAMOND",
  "aWHITE HEAVY SALTIRE WITH ROUNDED CORNERS,aLEFT THIRD WHITE RIGHT POINTING INDEX",
  "aMIDDLE THIRD WHITE RIGHT POINTING INDEX,aRIGHT THIRD WHITE RIGHT POINTING INDEX",
  "aNEGATIVE SQUARED QUESTION MARK,aSTICK FIGURE,cWITH ARMS RAISED,cLEANING LEFT,dRIGHT",
  "cWITH DRESS,aWHITE UP-POINTING CHEVRON,1fbf0:aSEGMENTED DIGIT ZERO,cONE,cTWO,cTHREE,cFOUR",
  "cFIVE,cSIX,cSEVEN,cEIGHT,cNINE,e0001:aLANGUAGE TAG,e0020:aTAG SPACE,bEXCLAMATION MARK",
  "bQUOTATION MARK,bNUMBER SIGN,bDOLLAR SIGN,bPERCENT SIGN,bAMPERSAND,bAPOSTROPHE",
  "bLEFT PARENTHESIS,bRIGHT PARENTHESIS,bASTERISK,bPLUS SIGN,bCOMMA,bHYPHEN-MINUS,bFULL STOP",
  "bSOLIDUS,bDIGIT ZERO,cONE,cTWO,cTHREE,cFOUR,cFIVE,cSIX,cSEVEN,cEIGHT,cNINE,bCOLON,bSEMICOLON",
  "bLESS-THAN SIGN,bEQUALS SIGN,bGREATER-THAN SIGN,bQUESTION MARK,bCOMMERCIAL AT",
  "bLATIN CAPITAL LETTER A,eB,eC,eD,eE,eF,eG,eH,eI,eJ,eK,eL,eM,eN,eO,eP,eQ,eR,eS,eT,eU,eV,eW,eX",
  "eY,eZ,bLEFT SQUARE BRACKET,bREVERSE SOLIDUS,bRIGHT SQUARE BRACKET,bCIRCUMFLEX ACCENT,bLOW LINE",
  "bGRAVE ACCENT,bLATIN SMALL LETTER A,eB,eC,eD,eE,eF,eG,eH,eI,eJ,eK,eL,eM,eN,eO,eP,eQ,eR,eS,eT",
  "eU,eV,eW,eX,eY,eZ,bLEFT CURLY BRACKET,bVERTICAL LINE,bRIGHT CURLY BRACKET,bTILDE,aCANCEL TAG",
  "e0100:aVARIATION SELECTOR-17,bSELECTOR-18,bSELECTOR-19,bSELECTOR-20,bSELECTOR-21,bSELECTOR-22",
  "bSELECTOR-23,bSELECTOR-24,bSELECTOR-25,bSELECTOR-26,bSELECTOR-27,bSELECTOR-28,bSELECTOR-29",
  "bSELECTOR-30,bSELECTOR-31,bSELECTOR-32,bSELECTOR-33,bSELECTOR-34,bSELECTOR-35,bSELECTOR-36",
  "bSELECTOR-37,bSELECTOR-38,bSELECTOR-39,bSELECTOR-40,bSELECTOR-41,bSELECTOR-42,bSELECTOR-43",
  "bSELECTOR-44,bSELECTOR-45,bSELECTOR-46,bSELECTOR-47,bSELECTOR-48,bSELECTOR-49,bSELECTOR-50",
  "bSELECTOR-51,bSELECTOR-52,bSELECTOR-53,bSELECTOR-54,bSELECTOR-55,bSELECTOR-56,bSELECTOR-57",
  "bSELECTOR-58,bSELECTOR-59,bSELECTOR-60,bSELECTOR-61,bSELECTOR-62,bSELECTOR-63,bSELECTOR-64",
  "bSELECTOR-65,bSELECTOR-66,bSELECTOR-67,bSELECTOR-68,bSELECTOR-69,bSELECTOR-70,bSELECTOR-71",
  "bSELECTOR-72,bSELECTOR-73,bSELECTOR-74,bSELECTOR-75,bSELECTOR-76,bSELECTOR-77,bSELECTOR-78",
  "bSELECTOR-79,bSELECTOR-80,bSELECTOR-81,bSELECTOR-82,bSELECTOR-83,bSELECTOR-84,bSELECTOR-85",
  "bSELECTOR-86,bSELECTOR-87,bSELECTOR-88,bSELECTOR-89,bSELECTOR-90,bSELECTOR-91,bSELECTOR-92",
  "bSELECTOR-93,bSELECTOR-94,bSELECTOR-95,bSELECTOR-96,bSELECTOR-97,bSELECTOR-98,bSELECTOR-99",
  "bSELECTOR-100,bSELECTOR-101,bSELECTOR-102,bSELECTOR-103,bSELECTOR-104,bSELECTOR-105",
  "bSELECTOR-106,bSELECTOR-107,bSELECTOR-108,bSELECTOR-109,bSELECTOR-110,bSELECTOR-111",
  "bSELECTOR-112,bSELECTOR-113,bSELECTOR-114,bSELECTOR-115,bSELECTOR-116,bSELECTOR-117",
  "bSELECTOR-118,bSELECTOR-119,bSELECTOR-120,bSELECTOR-121,bSELECTOR-122,bSELECTOR-123",
  "bSELECTOR-124,bSELECTOR-125,bSELECTOR-126,bSELECTOR-127,bSELECTOR-128,bSELECTOR-129",
  "bSELECTOR-130,bSELECTOR-131,bSELECTOR-132,bSELECTOR-133,bSELECTOR-134,bSELECTOR-135",
  "bSELECTOR-136,bSELECTOR-137,bSELECTOR-138,bSELECTOR-139,bSELECTOR-140,bSELECTOR-141",
  "bSELECTOR-142,bSELECTOR-143,bSELECTOR-144,bSELECTOR-145,bSELECTOR-146,bSELECTOR-147",
  "bSELECTOR-148,bSELECTOR-149,bSELECTOR-150,bSELECTOR-151,bSELECTOR-152,bSELECTOR-153",
  "bSELECTOR-154,bSELECTOR-155,bSELECTOR-156,bSELECTOR-157,bSELECTOR-158,bSELECTOR-159",
  "bSELECTOR-160,bSELECTOR-161,bSELECTOR-162,bSELECTOR-163,bSELECTOR-164,bSELECTOR-165",
  "bSELECTOR-166,bSELECTOR-167,bSELECTOR-168,bSELECTOR-169,bSELECTOR-170,bSELECTOR-171",
  "bSELECTOR-172,bSELECTOR-173,bSELECTOR-174,bSELECTOR-175,bSELECTOR-176,bSELECTOR-177",
  "bSELECTOR-178,bSELECTOR-179,bSELECTOR-180,bSELECTOR-181,bSELECTOR-182,bSELECTOR-183",
  "bSELECTOR-184,bSELECTOR-185,bSELECTOR-186,bSELECTOR-187,bSELECTOR-188,bSELECTOR-189",
  "bSELECTOR-190,bSELECTOR-191,bSELECTOR-192,bSELECTOR-193,bSELECTOR-194,bSELECTOR-195",
  "bSELECTOR-196,bSELECTOR-197,bSELECTOR-198,bSELECTOR-199,bSELECTOR-200,bSELECTOR-201",
  "bSELECTOR-202,bSELECTOR-203,bSELECTOR-204,bSELECTOR-205,bSELECTOR-206,bSELECTOR-207",
  "bSELECTOR-208,bSELECTOR-209,bSELECTOR-210,bSELECTOR-211,bSELECTOR-212,bSELECTOR-213",
  "bSELECTOR-214,bSELECTOR-215,bSELECTOR-216,bSELECTOR-217,bSELECTOR-218,bSELECTOR-219",
  "bSELECTOR-220,bSELECTOR-221,bSELECTOR-222,bSELECTOR-223,bSELECTOR-224,bSELECTOR-225",
  "bSELECTOR-226,bSELECTOR-227,bSELECTOR-228,bSELECTOR-229,bSELECTOR-230,bSELECTOR-231",
  "bSELECTOR-232,bSELECTOR-233,bSELECTOR-234,bSELECTOR-235,bSELECTOR-236,bSELECTOR-237",
  "bSELECTOR-238,bSELECTOR-239,bSELECTOR-240,bSELECTOR-241,bSELECTOR-242,bSELECTOR-243",
  "bSELECTOR-244,bSELECTOR-245,bSELECTOR-246,bSELECTOR-247,bSELECTOR-248,bSELECTOR-249",
  "bSELECTOR-250,bSELECTOR-251,bSELECTOR-252,bSELECTOR-253,bSELECTOR-254,bSELECTOR-255",
  "bSELECTOR-256"]

end KeyedAccess.Text
