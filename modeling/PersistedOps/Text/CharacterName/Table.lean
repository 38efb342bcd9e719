/-!
The names of characters, written in fragments: a list of fragments, and records in the order of the
code points. Underscores stand for blanks.
-/

namespace PersistedOps.Text.CharacterName

/-- The fragments, the most frequent first. -/
def fragmentLines : List String := [
  "a e b d E. c I. U. O. f A. _ cS E A U T I C O P G _WITH_ cN H M L B K - cC S. Y . 0 1 2 3 4 5 6",
  "7 8 9 ; D F J N Q R S V W X Z g h i j l LE AL ER AR TH ON IN _S AN EN _W IG OR D_ TER ITH TI",
  "_WITH AL_ T_ OW E_ LET LETTER T. bC RE LETTER_ M. OM AP IGH IT S_ DO LA T- ED_ ALL cA ING bS",
  "MALL HE RA BO K. FOR MALL_ H. IS D. TW RO ENT- OMP UN UR HA. OMPON OMPONENT- bCOMPONENT- FORM.",
  "SI LEF EL TA APIT TION APITAL_ LE_ DI X. UP RIGH ARR ME VER HA ARROW 2. QU bSMALL_ IGN IE ;a VE.",
  "cD AND_ bCAPITAL_ ING_ ARD bSMALL_LETTER_ CK IR L. cT _M OP bCAPITAL_LETTER_ dS dA Y. _B cM",
  "AL_FORM. UB _SIGN 3. ANG _C AC TED_ 8. TR cK PO DE 4. IC ARDS_ AS cG 1. 6. UM cF cP HO ATION DOT",
  "dN 5. 00 ABO ON. 7. LO VAR A_ EM dM EN. TOR HEA S- ES LE. _ST 0;a cB _F cW _SE cH cY VARI dT aS",
  "US AR. dB 01 9. cR Y_ DOUB ID UL TIC OW. dF G. IRC 0. O_ ARROW. AT ABOVE. _SIGN. LEFT_ AM RIGHT_",
  "dK I_ TWARDS_ cZ THRE AND ELOW. cV YM 02 LEC cL H_ HIT TE PL YMBO OWN P. cDOT OF _SELEC",
  "_SELECTOR VARIATION YE VE_ VS VARIATION_SELECTOR ER_ TRI 0;aVS VARIATION_SELECTOR-",
  "aVARIATION_SELECTOR- cDOTS- cE OUR YA. ISO aC INAL_FORM. ISOLA AN. HOO DOUBLE_ ISOLATED_",
  "ISOLATED_FORM. ARK. ROK DOWN HOR TA. aB ER. ET. VERTIC 03 AL. UND 2; R. dC DOT_ IZ QUAR E_S cJ",
  "ONE. AG _N LACK OL _STROK AA. IL LOW dP IN. ONE_ INI GA. MA. EQU POIN EV TRIANG GRA MEDI ONT B.",
  "BELOW. INITI dD dE _WITH_C E- IDD IEU OVER HEAV TH. CH HITE_ F. _SYMBO HOOK. INITIAL_FORM. TING_",
  "INE. X_ _STROKE. _T _MARK. OP. TWO. WARDS_ 04 AK IM FI RIGHTWARDS_ IGHT. dG Q. AD EE. IZONT ING.",
  "MO dL _FINAL_FORM. CK. HE. UT aW ESI TIME IDDLE_ C. EU EN_ cTH H_WITH_ IGHT_ 12 ENT ENT. aP cO",
  "_SMALL_ _SYMBOL. AND. HAL AN_ ROS IC_ US_ UNDRE GRE MEEM HUNDRE ON_ CRE TWO_ V. dY II. B_ FLE N.",
  "UP. cSI RACK SIL cU TIMES_ W. OUR. THO DA NA. NO TO THREE. 05 DIG HAND K_ THREE_ _SIGN_ ED ET",
  "LEFTWARDS_ FAC ONG POINTING_ TIL RAP LA. DA. AY THOUS _WITH_DOT_ EX HAR PER SED_ eS INDE PAR dR",
  "OF_ IT_ cA3 OG US. BAR HALF bLETTER_ HEAD LE- VERTICAL_ cA2 dZ CIRC HI UMB DE. OWEL cQ OO. 3;",
  "EVEN. WA. cLA HORIZONT RIGHT. UP_ -0 13 THOUSAND. UN. _ISOLATED_FORM. ARROW_WITH_ PLUS_ eK ARG",
  "IVE. PSIL REVER aBLACK BAR. GE OS. RACKET. aN HAND- ORN cA4 A_AND_ SA. bHAND- bCOMPONENT-2",
  "bCOMPONENT-3 bCOMPONENT-4 bCOMPONENT-5 bCOMPONENT-6 bSIGN INE_ RI TO. AB ENI. cCM dI GRAM OC OU",
  "bV dH dU. UM. ES. IF URN cWES dI. ALEF EQUAL_ cA1 _K IL. SC aF ABOVE_ ACUT HEADED_ T_S ESIS.",
  "ON_WITH_ ZER _WHITE_ 0;aVS1 ATOR AR_ J. LES TY. VERTICAL 06 AT. DIA LETTER_S O-",
  "aVARIATION_SELECTOR-1 dO. dV DOTS_ HEAVY_ HUNDRED. U_ DIGIT_ TH_ UR. YMBOL BRE T-CRE aM aUP",
  "bVOWEL cWEST-CRE dTH E_WITH_ EC GA 78. AP. ED. LI H_ISOLATED_FORM. aRIGHTWARDS_ DOWNWARDS_ FLEX_",
  "PH RAPH TIK ZERO. dE. dW EXT MEDIAL_FORM. RES XI dAB ACUTE. bM bCOMPONENT-1 dU dA5 _BELOW.",
  "_WITH_STROKE. -2. BIN JE DIAER ROTA dM1 _L ATER DASI DOT. aWHITE_ GRAMM INVER TO_ aLEFTWARDS_",
  "AE. URA Z. dA3 OT. TU URNED_ bP eB _AND_ _WITH_CIRC -TH H_FINAL_FORM. cSH eN fDASI ARROWHEA",
  "I_AND_ LE-HEADED_ OVER_ TRIANGLE-HEADED_ YEO bN AD. ACR DEOG RA. REVERSED_ TT TION. VI",
  "bVOWEL_SIGN_ ATOR. BLACK END eG _P LEN LOCK. bCOMPONENT-7 cI 23 45 CHE EQUAL_TO. KH cX dSI",
  "_MIDDLE_ A- AKS DEOGRAPH KA. MARK. TRO cSS ET_ ENTR GEGRAMM GEGRAMMENI. HEAVY IEUP MIDDLE_",
  "MEDIUM cNA. cSA. cTA. _INITIAL_FORM. _MAKS BARB_ JEEM LEFT. ONE- OUR_ REC TAIL. cTWO. cMA.",
  "cWEST-CREE_ dSYMBOL _BRACKET. HO. IRCLE K- OR_ UK ULL cDD cLA. dJ dTIMES_ 07 ASH. DIGIT_ZERO.",
  "IEUL LY OX. ROTATED_ S-TH TILDE. aLEFT_ cTHREE. cDOTS-12 cPA. _MAKSURA LAM LAT OXI cI. cU. cDA.",
  "cRA. cYA. dSYMBOL- _STOP. _WITH_CIRCUM 08 ATH ALIC_ FACE. IT. KA LIT ONG_ PER_ RING_ cBA. cFIVE.",
  "cFOUR. cGA. _SHA _SQUAR AE ANT- EAS ENTH LESS-TH PSILI_AND_ SH TWENT UT. bSEXT cHA. eMEEM _SP",
  "ALEF_MAKSURA ATER-TH CAPITAL_ EH. HAM LETTER_A. LOCK MA MACR OCALIC_ PLAN UNC bSEXTANT-",
  "fDASIA_AND_ AF. ANNA. DE_ DIAERESIS. EL. HI. IEUL- U- aT _CAPITAL_ 09 0;aVS2 ARROWHEAD. GRAVE.",
  "LARG LOWER_ TRIANGLE. U_WITH_ UC aVARIATION_SELECTOR-2 cE. cEIGHT. cHOR cSIX. dTWO. dFINAL_FORM.",
  "_WITH_DOT_ABOVE. AF DEGRE ERS HARPO INVERTED_ RY ROSS TION_MARK. WE. cTA cNINE. cSEVEN. IYEO IN_",
  "LAS O_WITH_ OTA SIOS. TERN UNG WITH YA AMON BU DIAMON FIS ORNAM PA. UG bF bSIGN_ eE _BAR. ARC",
  "DEGREES. IVE_ INAL_ JO RIP YEH_FINAL_FORM. cO. cJA. fPSILI_AND_ DEOGRAPH- ORNAMENT. VA",
  "aDOWNWARDS_ cVERTICAL cKA. cNGA. dA6 dB1 _STAR. 68. ACE. ANUS ANUSVAR GREATER-TH HIEU LINE_",
  "LATIN QUARE_ THA. aRIGHT_ cHORIZONT ARROW_ DIFI EAST_ HEAR HORIZONTAL_ LITT NA ROM TEEN. UE.",
  "UMBER_ UNG. cRIEUL- cSMALL_ 67. ISH. OD OLD_ QUARTER TE. TERIS TIKEU aUPWARDS_ cCA. cHORIZONTAL",
  "dNG _SMALL ANGLE_ EIGH LIGHT_ MACRON. PIE POM UNU. aBLACK_ bRIGHT_ cNG ARK ASTERIS ETA. EQUI ONS",
  "OXIA. VARIA. cHA cNYA. AGON ANG. DIAGON IE. LEFT- NOT_ ULL_STOP. cRE eF eU. _G _WITH_HOOK.",
  "ALTERN ATION_MARK. CUR OME OPER SCEND TED UX. ULAR_ YR aD cONE. cNY _WITH_DOT_BELOW. ALP ANDRA",
  "DIC DOWN_ H_INITIAL_FORM. HORT_ ISPOM MA_ PARENTH WI. aRIGH cBE dTHREE. AM. ACC ANUSVARA. ARON.",
  "ATION. DESCEND DOTS_ABOVE. LACK. OS- OPEN TH_EAST_ UNCTU cCHA. _WITH_S BA ENU. HARPOON_WITH_",
  "HARPOON_WITH_BARB_ I- INDEX. OCALIC_R. OMBIN RAN RAMA. RIGHTWARDS_ARROW. TRIP bDIGIT_ZERO.",
  "cHORIZONTAL- cKHA. cTHA. cVERTICAL- dTA eE. eT _CENTR -S A_WITH_ ALTERNAT ANA_ ASTERISK. EST_",
  "HALF_B HEL JOIN OO OMMA. OP_ OPEN_ PERISPOM Y_DEGREES. cSHA. cZZ dINITIAL_FORM. dMEDIAL_FORM.",
  "dAI. dIDEOGRAPH- eM _BAR _SQUARE. AH. DESCENDER. HU. INGLE. KED_ RETRO SI. aMO cPHA. dL. dO ALE",
  "ARDS. ASH CE. HIGH HALF_ ION. IYEOK. JE. OF_C RETROFLEX_ ST THUM VE_S WAA. bLEFT_ cLAK- cMO dLOW",
  "dFOUR. eO. _WITH_CARON. 45. ARK_ ARCHA BREVE. CIRCLE. DU. FORM IEUP- INET LIN OLON. OMBINING_ PE",
  "PIEUP. POGEGRAMMENI. RED_ SE. TRA TY_ TILDE_ bW cHE cAA cGG cVA. dII. dQ eL eP _Y 2_ 56. AV AW.",
  "BRACKET. BOL CH. DOUBLE. ESH. FLO FIED_ HU IAN INTER INDEX_ LLA. LETTER_SMALL_ OPERATOR. RING.",
  "RIPT_ TION_ WITH_ YPOGEGRAMMENI. bSMALL_LETTER_S cDDA. cWA. dUU. eD 46. ARD. ASH_ FLEX. HING",
  "HAH_INITIAL_FORM. HAMZ HOOK_ RETROFLEX_HOOK. SS_ aG bDOUBLE_ bK cRIGHT_ cBB cNU dONE_ dFIVE. _S.",
  "ALEF_MAKSURA_FINAL_FORM. BOTT ENT_ EQUAL EVEN_ HY KIYEOK. LAN LEFT_TO_ LOWER NE PAL PRO SER TER.",
  "UBS URE_ URX. VEM cTI cDHA. cGHA. cSSANG eR eU _WHIT 0; 00. AY. ACCENT. BEL EH_WITH_ EN_WITH_",
  "HORIZONTAL IK IGAT TONE_ TS. TAK TH_W UO. bD cME cBHA. cNJ cSE cTTA. cTTHA. dAU. dTURNED_ eI.",
  "_WITH_SMALL_ _WITH_CIRCUMFLEX_ AMMA. ARGA. CIRCLE_ EM. EYE EIGHTH END_ ESIS_ HAH_WITH_ KH. LONG_",
  "LOSED_ POINTED_ SE_ THIR TRIANGLE_ TRIPLE_ TWENTY. ULTI WIS cDOTS-1 cNNA. dLA dHIGH eL. _CIRC",
  "_SMALL. 001. 002. 003. 004. 005. 006. 007. 48. 5; 678. AI. AT_ ALL. ARAB EI_ EY E_C HIEUH. IX.",
  "ISARGA. LOCKWIS QUE ROSS. UPPER_ bMO cRA cDOTS-2 cJJ _D _BARB_ _STROKE_ 008. AW ANDRABIN BOTTOM",
  "ENG FLOOR IEX. IGATURE_ KO LINE. LED_ MIL PARENTHESIS. RIS TY TIKEUT. UOX. UNDER UPWARDS_",
  "VERTICAL_STROKE. aHEAVY_ cDOTS-13 cDOTS-23 cDOTS-3 cDOTS-123 _WITH_CIRCUMFLEX_AND_ 57. AH ANDA.",
  "CE CON DOT_ABOVE. EDI EQUALS IEUC. INDEX INGLE_ LIC LITTLE_ PROS QUES QUOTA RAM",
  "TRIANGLE-HEADED_ARROW_WITH_ UMP UND_ UPPER ZA. cDOUBLE_ cA5 cDDHA. cPIEUP- dEIGHT. dNINE.",
  "dSEVEN. dSIX. -1. 47. AL_HOOK. ATAL_HOOK. D_S DOTS. ETH. ENTI HAA. HAH_ISOLATED_FORM. IO IEP.",
  "IEUM KHON_ LETTER_SMALL_CAPITAL_ OM. ORKHON_ PA PALATAL_HOOK. PERISPOMENI. PLUS POKED_ QUAD",
  "RIGHT- ST_ TON THUMB TH_WEST_ aCIRCLE bVOWEL_SIGN_AA. cONE_ cSSA. cSIOS- dHA. dRA. _MO -3. 11.",
  "2;a 58. DOWN. EP. ENIS ENISEI_ FIST_ HITTING_ IP. ICAL_ L_ LIGATURE_ LOG LOTT MEDIUM. NAYA. RAC",
  "ROSSING_ UOP. UPSIL aE aLEF bCAPITAL_LETTER_S cII. cRO cA04 cAI. cJHA. cNZ dORKHON_ dSH dTONE-",
  "dYENISEI_ fPLUS_ _WITH_MEEM 10. 4; ANT_ AND_RIGHT_ ANDRABINDU. ARDS ASK BA. BLACK_ COP D_SE",
  "DOT_BELOW. EK ESH FING GTH HEE. HUNDRED_ IDE. LLA LARGE_ LOCKWISE_ OUTH_EAST_ PROSGEGRAMMENI.",
  "S_B TWO_DOTS_ YANNA. aGREATER-TH bHAND-FIST_ cAA. cAU. cDOWN cHM dN. eR. eB2 _NO _WHITE_ARROW.",
  "_WITH_DESCENDER. _WITH_CEDI 009. 12. 14. 53. ANT AYANNA. CLAM DIAMOND. DOUBLE HALF_BLACK. HAMZA_",
  "HOOK_ABOVE. LENGTH OE. OS OMEGA. OVERLA POKED_ASTERISK. RAIS TAG TERAL_ TWEL VEMENT- aLESS-TH",
  "bSMALL_LETTER_K bSMALL_LETTER_U_WITH_ cNIE cUU. cVISARGA. dY. dNA. dSHA. _WITH_DOT. 010. 011.",
  "16. 18. 6A. AD_ DIV DIAGONAL_ DIGRAP ENG. FIVE_ FOR_ I_WITH_ I_G INS KN LOS OR_EQUAL_TO.",
  "T_SQUARE_ UCK UNDERBAR. YT. YEH_ISOLATED_FORM. aDOUBLE_ bB bCAPITAL_LETTER_U_WITH_ cA. cTHREE_",
  "cLOW cMG cV02 dYA. dFIVE_ dKA. eS. _BLOCK. _BARB_ARROW. _FACE. _STRA _TO _WITH_ACUTE.",
  "_WITH_MIDDLE_ -P 02. 08. 013. 13. 15. 17. 42. 49. 50. 52. AL_S ALLPLAN CIEUC. DAG DIFIER DIFIER_",
  "DOTTED_ EG ED_S EQUILA EQUILATERAL_ EQUILATERAL_ARROWHEAD. EXCLAM HAD HALF. IM. IX",
  "JEEM_INITIAL_FORM. LIGHT. LET. LIP MED OLID SANG SHE TURNED_ TION_M UPERS YP. YR. aFAC aIN aNE",
  "bCAPITAL_LETTER_K cKAP cNO cSHE dT. dTHREE_ dX eH. eM. eT. eW. _MIDDLE_RIGHT. 01. 09. 012. 015.",
  "19. 51. 54. 55. AU. ALEF_MAKSURA_ISOLATED_FORM. ANS- AND_LEFT_ ANS-SER ANS-SERIF COPTIC DS. ENC",
  "HELL HORN INETY_DEGREES. ISH LAG LEV MON NINETY_DEGREES. NOR ONSON OR. ROTATED_NINETY_DEGREES.",
  "VERY_ VIRAMA. WA WALLPLAN WO. YO. YX. ZHE aK bCAPITAL_LETTER_O_WITH_ bNUMBER_",
  "bSMALL_LETTER_O_WITH_ cIE cA06 dK. dM. dP. dLA. dMA. eD. eK. eP. _A. _BLACK _CENTRE. _FROM _NG",
  "_SH _SHAF _WITH_CEDILLA. -SI 03. 04. 05. 014. 016. 017. 019. 1A. 7;a 7A. ALPHA. ALTERNATE_ ATA.",
  "EK. ETA END_OF_ EUTR FLOORPLAN INDIC ING_FACE. IR. LO. LANTED_ LASH. LATIN_SMALL_ MIN MEDIUM_",
  "OK. OLD_COPTIC OVERLAY. PARATOR. QUESTION_MARK. THUMB_ UD UKTA. ULAR UNCTUATION VO WEE. YN",
  "aHEAVY aCIRCLED_ aNOR bCAPITAL_LETTER_G bMOVEMENT- bSMALL_LETTER_C bSMALL_LETTER_D",
  "bSMALL_LETTER_G cLO cA03 cHX cMA cNB cNL cZA. dONE. dA7 dPA. eB. eC. eN. eV. eX. eZ. _CROSS.",
  "_CIRCLE. _FULL_STOP. _SINGLE. 06. 07. 0A. 018. 020. 021. 40. 43. AK. AQ. ACTER ANC ANS BE BRACK",
  "BACK BLACK_STAR. BOTTOM_ CRIPT_ CHESS_ EAR EX. FF FIVE. GU HEAVY. HORIZONTAL. HORN_AND_ IFIED_",
  "IC_LETTER_ IEUM. IG. IGMA. LETTER_W OB ONG. RIN RUMP RAG RAISED_ REVERS ROTATED_TWO_ TEN. TOP TS",
  "TWE TWO TY_THOUSAND. VERTICAL_BAR WARDS. YAN YP YRX. aH aPO aUPPER_ bG cHO cD05 cFINAL_ cMIEUM",
  "cNIEUN cTRUMP cTS dH. dJ. dME dOVER dQU dS. dW. dVOCALIC_R. eF. eG. eJ. eY. eYEH_ISOLATED_FORM.",
  "eZ eMEEM_ISOLATED_FORM. _SIDE. _SHAFT. _WITH_PALATAL_HOOK. -POINTING_ 022. 41. 5A. 64. A_S ACK",
  "ABOVE_S APRA CORN DAGESH. DOUBLE- EP E_SQUAR EMIC EUX. FINAL_FORM. HARACTER IA ICR IEUL. IFTY.",
  "IRTY. LATIN_CAPITAL_ LEAF. LESS-THAN. LINE_BELOW. LITTLE. LLAB LOTTAL OF. P_ PUNCTU S_BLOCK. TUR",
  "THS. TIVE_ TRIANGLE_ARROWHEAD. TWENTY UT_ UPER USH. VARIANT_ WII. WOO. YE. YLLAB aDO",
  "bLETTER_SMALL_CAPITAL_ cHEAVY_ cTWO_ cA05 cHE. cSAD cSIGN dD. dDOUBLE_ dG. dR. dTWO_ dV. dWA.",
  "dX. dDZ dLARG dTA. eQ. eSI eRR. fS _TENU. _TONE_ _WA -4. -VA -SIM -SIMPL -VAS. 023. 024. 20. 21.",
  "24. 3_ 44. 59. 65. 66. 6;a 70. 80. ANT. ANTIC ANS-SERIF_ ATION_SIGN. BREVI DES. ES_ ESH2. GR",
  "HINGE_ IAN_ IEUTH. INSI INTERS ISH_ KE LU LUB LOGICAL_ NOT OWED PH. POS POV QUOTATION_MARK. RE.",
  "TACK. TEGR THREE_DOTS_ABOVE. TI. TONOS. VET aGREATER-THAN_ bAB bCAPITAL_LETTER_C cKN cLAM cPE.",
  "dQ. dA4 dB. dF. dGUNU. dSA. eC eYEH_FINAL_FORM. eMEEM_INITIAL_FORM. _CHE _CUR _SYMBOL_",
  "_WITH_YEH_FINAL_FORM. -CRE 025. 1_ 23. 26. 29. 60. 61. 62. 63. 71. 81. 8; AG. AX. AZ",
  "A_AND_YPOGEGRAMMENI. ALLA AND_ACUTE. ARCHAION. ARRI ARROW_TO AYIN. BELOW BOX. CHED_ CURLY DASH_",
  "DUC D_SEV D_SEVENT D_SEVENTY_DEGREES. DIAERESIS_ EO. E_SHELL FIL FORW HORIZONTAL_STROKE.",
  "HUNDRED_SEVENTY_DEGREES. HYPH IA. IRAMA. IET. IEUPH. IMAT INTERSEC ISE_SHELL ITA.",
  "JEEM_ISOLATED_FORM. LEFT_TO_LOWER LEFT-POINTING_ OGRAM OV OMICR PERS POINTED_BLACK_STAR.",
  "PUNCTUATION. RO. RUP RECE REST. RIGHT-POINTING_ ROTATED_TWO_HUNDRED_SEVENTY_DEGREES. T_WHITE_",
  "TELE TOISE_SHELL TORTOISE_SHELL TWO- UNG- USH VE VERY_HEAVY aLESS-THAN_ aPAR bABBREVI",
  "bHAND-HINGE_ bPUNCTUATION cDI cLEFT_ cCH cFA. cLIGHT_ cMODIFIER cSIX cVOCALIC_R. dGA. dOO.",
  "dOVER_ dRA dRE dB2 dBA. dC. dCHA. dDA. dEE. dFOUR_ dZ. _ABOVE. _SEC _WITH_GRAVE. 026. 027. 028.",
  "029. 22. 25. 27. 28. 36. 3A. 69. 72. 83. 84. 89. 90. 92. 95. AME AF_WITH_ AGE. ANGLE. ARROW_FROM",
  "BOLD_ CONJOIN DIFIER_LETTER_ ELTA. ENTA EQUALS_SIGN. ET_WITH_ FLEX GA_WITH_ GREEK HAH. HEI.",
  "HEART. HEARTS. IB IN_WITH_ ING_S JA. LOW_ MEDH. ON_SYMBOL. ONSONANT PI. POINTING_INDEX. PSILI.",
  "RON RACH RACTION_ ROP THE_ THUMB. TILE. TWENTY- UA UAE. UP_AND_ YI. YS YUS. YEH. YEOUN aLOWER_",
  "aWHIT bH bCAPITAL_LETTER_D bCAPITAL_LETTER_E bCAPITAL_LETTER_Y bLETTER_A. bSMALL_LETTER_L",
  "cANUSVARA. cQU cTWENTY. cFIVE_ cLLA. cPH cTRUMP- cYO- cZ01 dKHA. dLL. dLARGE. dPE. dTS eY fWITH_",
  "_MEDIAL_FORM. _CIRCLE _CENTRE_ _SPACE. _TONE. _WITH_STROKE_ _WITH_LINE_BELOW. _WITH_CUR",
  "_WITH_CIRCUMFLEX. _WITH_CURL. -SIMPLIFIED_ 030. 2A. 34. 39. 74. 77. 79. 82. 85. 88. 91. AGRA",
  "AGRAHA. ALMO ALEF. ALMOST_ AND_S ANGLE_BRACKET. APRAANA_ ARK_ORNAMENT. BARB_ARROW. BREVE_ COM",
  "DANDA. DISH. DIGRAPH. E_SQUARE. ED_ARROW. ERS. EVENT EXCLAMATION_MARK. FLA FOUR_ FORWARD. HOS.",
  "IEE. INDEX_MIDDLE_ KATAK LIGH LARGE. LEG. MU OA. ODH. ROUG RYZHE STR SCRIPT_ TAIN THROUG",
  "THREE_DOTS_ TIFIED_ TIKEUT- TWARDS. UD. UB. UMER VA. aREVERSED_ bA bHAND-CIRCLE_ bSIGN_VIRAMA.",
  "bSMALL_LETTER_A_WITH_ bSMALL_LETTER_E bSMALL_LETTER_Y cD06 cNIEUN- cTEN. dA. dCROSSING_ dNJ dSHE",
  "dSIX dSIX_ dTIMES_A. eLA eLL. fN hINITIAL_FORM. _ON_ _TIMES_ -CREE_ 034. 30. 35. 37. 38. 3;a 4;a",
  "456. 73. 75. 76. 86. 87. 94. 96. ALAY ALEPH. AMEKH. ANTI ANTICLOCKWISE_ ARROWS. ARROWHEAD_ DIREC",
  "DOWN_AND_ E_M EMP EQUIVA EQUIVALEN EUTRAL_ EYES. FORM_ GE. HAND_ HAR. HM HEAD_ HOOK IDEOGRAPH",
  "IYA. IMEL. INVERTED_BREVE. LENGTH_MARK. MIEUM. OQ. OU. OY. OBLI OGON ONE_EIGHTH OPP QUADRAN RIC",
  "RIM ROC. SIC SION. TING TRE TACK THUMB_SIDE. TRIANGULAR_ UCCE UPERSET_ UPSILON. VERTICAL_BAR.",
  "YEE. YLLABLE_ aSQUARE_ bCAPITAL_LETTER_A_WITH_ bCAPITAL_LETTER_L bSMALL_LETTER_R bSMALL_LETTER_Z",
  "cAR cEE. cEIGH cHL cHN cNN cNUMBER_ cNUN. cOO. cRRA. cSIM cSEEN_WITH_ cYO. cYU- dMEDIUM. dEIGH",
  "dEIGHT_ dIDEOGRAPH-5 dKAP dMB dNINE_ dSEVEN_ dSMALL_ dZA. fC _LETTER_ _PLUS_ _CH _CORN _LINE.",
  "_S_K _SEPARATOR. _SPA _SPADES. _TONE_BAR. -00. -5. -01. -02. -03. -04. -05. -06 -06. 031.",
  "2_TENU. 4A. 6; 8A. 93. 97. 98. 99. 9;a AGE_ ALY ALYTIK AN_C AN2_TENU. AND_LOWER_ AND_MACRON.",
  "ARABIC ATO. BALL. COMMA. D;a DHA. DIAMONDS. DUCT. E_W E-2. ED- EQUAL. EQUIVALENT_ EQUIVALENT_TO.",
  "ESS. FOUR H_WITH_SMALL_ HI_ HAS HEH. HEAD. ID_ IS. IC. ILL INTEGR ING_C INSULAR_ INSIDE. ITH_",
  "IYEOK- KAR LATION. LATIN_SMALL_LETTER_ LE_WITH_ LES. LE_ARROW. LEFTWARDS_ARROW. LESS_ LUBS. MIDD",
  "MEEM_INITIAL_FORM. OK OON. OUND_ OUT OF_SPADES. OF_DIAMONDS. OF_HEARTS. OF_CLUBS. OLD_COPTIC_",
  "OLIDUS. OMI_ ONE_QUARTER ORG QUARED_ RIEUL. RU RESH. SHAP SIOS- TENU. T_SQUARE_BRACK TAK4. TICK",
  "TIM TORTOISE_SHELL_BRACKET. TRIANGLE-HEADED_ARROW. TWARDS UBSET_ VAGRAHA. YIN. YMBOL_ ZE. aBO",
  "aHO aRA aUP_ aV aVERTICAL_ aRIGHT- bCONSONANT bCAPITAL_LETTER_A bCAPITAL_LETTER_R bSEXTANT-12",
  "bSIGN_N bSMALL_LETTER_A bSMALL_LETTER_N bSMALL_LETTER_T cALEF cDE cGRE cHIGH cI- cMIEUM-",
  "cVIRAMA. cVOWEL cWEST-CREE_S dJA. dNYA. dTEN. eTH eWITH_ fOXIA. fDASIA. _SIGN_C _SPRE",
  "_WITH_RETROFLEX_HOOK. _WITH_MIDDLE_TILDE. 032. 033. 036. 037. 038. 0;aS 1;a 31. 32. 33. 7; 9A.",
  "AI AIN. ALLE ANSIOS. APOS APP APOSTRO ARM ARROW_ABOVE. ARROW_TO_BAR. B;a BE. BELOW_AND_ DIS",
  "DIALYTIK DIGIT_ONE. DOUBLE_ARROW. DOWNWARDS. E_SIGN. ELE E_SYMBO E_SYMBOL. ELLIP EST.",
  "ETA_SYMBOL. FINGERS FORTY. GRAVE_ GREATER-THAN. H- HADOWED HEEL HOO. ION I_GUNU. ICHOS. IEUN.",
  "IGI_GUNU. IGIT_ ILLE INITIAL_ ISS KING. LL LAC LATION LAMDA. LEFT_TO_UPPER LOZ LYU MEDIUM_SHA",
  "MILING_ NEO. NOT_EQUAL_TO. OUN OUT. PI PLIC RING_ABOVE. ROUND_ ROSS_ ROTATION SHA S_ICHOS. TAYA.",
  "TEEN TION_MARK_ORNAMENT. UE UG. UU. UCCEED ULTIP UMBER UPERSCRIPT_ VERTICAL. VERTICAL_BAR_ aJ",
  "aME aFACE_WITH_ aSMALL_ bRIGHTWARDS_ bTHREE_ bABBREVIATION_SIGN. bCOMMA. bCAPITAL_LETTER_N",
  "bFULL_STOP. cDO cPO cQUE cTIKEUT- cUP_ cAVAGRAHA. cEX cF04 cFOUR_ cJE cKAPYEOUN cMO.",
  "cONE_HUNDRED. cSHA cSHIN. cTE. cWAW. cWO. cYE cYEH_WITH_ dHE. dLE dTR dTWENTY. dCA. dCAPITAL_",
  "dCHI. dIO dNU. dONE_HUNDRED. dST dTHA. dYU. eHA. eHE eTHREE. eTWO. eFOUR. fDASIA_AND_OXIA.",
  "fDASIA_AND_VARIA. fPSILI_AND_OXIA. fPSILI_AND_VARIA. _R _BLACK_SQUARE. _MA _MG _SINGLE_ _WHITE.",
  "_WHITE_CIRCLE. _WITH_CIRCUMFLEX _WITH_CIRCUMFLEX_BELOW. _YUS. -6. -B 035. 039. 2_TIMES_ 5;a 7_",
  "ATA AU A_AND_PROSGEGRAMMENI. ACUTE_ AEM. ALIZ ALMOST_EQUAL_TO. ALTERNATING. AMBO ANA ARCHAIC_",
  "ARRIER_ ARROW_FROM_BAR. BAS BU. CIRCUM CONJOINED. CORNER CURLY_BRACKET. D_WHITE_ARROW. DA_ DIM",
  "DOUBLE_GRAVE. EIGHT_ EK_ E_TO_ E_SINGLE. EIGHTHS_BLOCK. ENI_AND_ ERS_ ERU. ESIE ET_ORNAMENT.",
  "EVEN FE FIN FIF HAND. H_MEDIAL_FORM. HAMZA_ABOVE. HORN. IC_S IG_YUS. IGG IGI. ILLA. INTEGRAL.",
  "IOTIFIED_ KING_ KNIGHT_ KOET. LI. LONG LY_ LAYA. LOZENG NIEUN. NOW NOTE OCLOCK. OGONEK. OMICRON.",
  "ONE_EIGHTH_BLOCK. OPEN. OPH. OVERBAR. PERISPOMENI_AND_ PHIEUPH. PSILON. RIST_ SE SSANG STRUCK",
  "TLE. TURN TABU TELEPH TH_WEST_POINTING_ TIP_ UQ. UBB ULLET. UPSILON_WITH_ URE. VI. VARIANT_FORM.",
  "VETLAYA. YA_ Y_THOUSAND. YPE- ZAP aDE aLIGHT_ aNOT_ aTH aRIGHTWARDS_ARROW_WITH_ aSC aSOUTH_EAST_",
  "aSUPERSET_ aTOP_ bQUESTION_MARK. bCAPITAL_LETTER_T bCAPITAL_LETTER_Z bDANDA. bDOUBLE_DANDA. bSUB",
  "cLE cLETTER_ cUP cA09 cC-SIMPLIFIED_ cCM1 cD04 cDAP cG04 cGHA cHIEU cIEUNG- cKX cLOW_ cM01 cME.",
  "cMI. cNE. cNINE_ cSE. cSEVEN_ cSIGN_ cTO. cTSA. cTTH cV00 cWE. cYESIE dREVERSED_ dIOTA dMU.",
  "dNGA. dNGG dNGK dSHORT_ eFIVE. eGA. eHAH_ISOLATED_FORM. eRIGHT_ eW eEIGHT. eKHAH_INITIAL_FORM.",
  "eNINE. eSEVEN. eSIX. eUD. _E. _BENT. _BRACK _CAPITAL_LETTER_ _CHESS_ _FIVE_ _FOUR. _SAL _SHAD.",
  "_STOP _STRAIGHT. _WHITE_SQUARE. _WITH_DAGESH. _WITH_DIAERESIS. _WITH_LEFT_ _WITH_TAIL. 6_ A;a",
  "AIR AL_SIGN. AL_STROKE. ALF ALI_ ALUNG ALPHA ALUNGUN AN_N APPRO ASRA ATE_ BENT. BI BR CROSS",
  "CHIEU CHIEUCH. CRESC DASH DASH. DER. DI. DING_ DIAGONAL_STROKE. DOUBLE-STRUCK ED_FACE. ELY_",
  "EMICOLON. EQUAL_TO EST ETTE. EUA EVENTY. FINGERS_SPRE FLOORPLANE_ GAR. GH GRO GATIVE_",
  "GRAVE_ACCENT. HAH_WITH_YEH_FINAL_FORM. HAR2. HIRAG HIGH_ HIRAGANA_ IDEOGRAPH- I_K IGIT_ZERO.",
  "INETY. JI. LOTTAL_STOP. LOW_LINE. MEDIUM_SHADE. OBLIQUE OBLIQUE_STROKE. OMEGA_WITH_ OPEN_E. PAP",
  "PEN PTO PLUS. POSI POVY QA. QUADRUP QUARED. QUOTATION_MARK_ORNAMENT. ROWN REVERSE_ REVERSE_S",
  "RING_LITTLE. S_S S_SIGN. STEM TN TAC THREE- TIE. TWELF TWO_DOTS_ABOVE. TWO-HEADED_ TY- UK. UL.",
  "UOT. U_PLUS_ ULTIPLIC US_SIGN. VEL VIS VERTICAL_AND_ YC ZH. ZZ aUN aBE aBLACK_CHESS_ aCON",
  "aLEFTWARDS_ARROW_WITH_ aNEUTRAL_ aPRECE aSUBSET_ aSUCCEED aTURNED_ aWHITE_S aWHITE_CHESS_",
  "bDOWNWARDS_ bCAPITAL_LETTER_B bCAPITAL_LETTER_E_WITH_ bCAPITAL_LETTER_I_WITH_ bCAPITAL_LETTER_P",
  "bHAND-ANGLE_ bNOR bSMALL_LETTER_B bSMALL_LETTER_E_WITH_ bSMALL_LETTER_I_WITH_ bSMALL_LETTER_P",
  "cIN cMEEM cREVERSED_ cA12 cA13 cCARRIER_ cCCH cEIGHT_ cFOUR cHAH_WITH_ cKA- cKE. cKO. cNI. cNO.",
  "cNOON_WITH_ cRO. cSI. cSIX_ cTHIR cTI. cV020 cWI. cYU. d. dRIGHT_ dAA. dFA. dIDEOGRAPH-6 dRR.",
  "dTTA. eA eALEF_MAKSURA_ISOLATED_FORM. eHAH_INITIAL_FORM. eKHAH_ISOLATED_FORM. fTWENTY-",
  "gALEF_MAKSURA_FINAL_FORM. _LETTER_A. _BE _COMMA. _CORNER. _LONG_ _MA. _PA. _SHO _TSHE",
  "_WITH_OBLIQUE_STROKE. -INDIC 0_ 0;aVS12 0;aVS13 0;aVS23 2_PLUS_ 3;bDIGIT_ZERO. 5_ AX ALI ALLY_",
  "AN_SIGN. ANES ANN ANO. ANY ANGUL ANS-SERIF_ARROW. API ARAK ARD_ ARI ARABIC-INDIC",
  "ARROW_WITH_SMALL_ ASS ASKAL. ATE_S ATOR_ BI. BOARD. CENT COMBINING_ CIRCLED_ CIRCUMFLEX.",
  "CORNER_BRACKET. DER DES_ DIVID DOUBLE_VERTICAL_STROKE. EZ E_ISOLATED_FORM. E-1. ED_B ED_SOUND_",
  "ENCE. ENTIAL. ENTRE_TO_ ERM ES_NOT_ FEC"]

/-- The records. Each ends in a stop. It may begin with its hexadecimal distance from the code point
before, which is else one; a small letter tells how many words of the name before it keeps, and the
words that follow these come last. -/
def recordLines : List String := [
  "WKy?SOQ?SdRdSXCR4SO_hQOQaVjVrU^ReVbQfSO_hRK0h]T6QEQfSOVTRK0h]RwiTIR5q1SO=Y60QUUYSOQURTRcRk0RtR1",
  "SOjWvUQLQ<pd0_[QAQfSOK[CT[jWQBD]GSOKOTNjd;virVSO]VvirVSOHQfSOREU70h]c[SO=CRdSOJUESO]Lv>XT",
  "SOb6QDqaSOQ?Rd0]LvirVSOVtvirVSOQCQfWsUESO_ySQ=XTTNlcqzQhjuV>SOBTe0[7Qv_8VxQ=QaTlsaVxQ=QatTsa8",
  "0[7Qv_8VxQ=QaX^saVxQ=QaTvSO_V0VHREXtQRVPSLBQl4SOQ<SM^MBS5SORzQCS1cCU6R8dsTl^MBRS",
  "SORzQCS1cCU6R8dsUP^MBRqSORzQCS1cCU6R8dsVL^MBS0SORzQCS1cCU6R8JwsWKiPSOb6x[jWvUQLQ<pdSXPV>",
  "sahvUCnPCV1ScSM0h]RwiTIR5RBQQffSOVTU7TNTQSOBiS[C0h]dwSO=dPSXossab;Q]@Ue40SLUjSOSLBQl40UUQLqc",
  "SOQ=OSOQR_yS;SSVhX2wsanR8RLqcSOEOSOQR_yS;SSVhzdVLZ5SOZ3QXeKhmSOQAOgL_yS;SSVhzdTlSOR;QnqcSOVnSXT:",
  "saD]G0oX0l2WKtgSok7tHQOSoUsQNzgSo0Sqm:Uw0snDUdZMc_]Pc_0_<0dUSoTN_B0lvQUMhhVnWs^=SXrk0ZF2Tl2UP2VL",
  "[yVF2iaQwcEQwW42=UWYHUJTNa2SXxPf7zR0n<e]zR0hnTNQkIQNBAQ_X90jj[6lBmbk?X_lCkAj?Wlj@h<_Yh=edX>h>l@",
  "kBjDgRWfkDjEkFf=mge3fSaJ0y1rk^[fSaJTNSiS7XYbI0xj0x]0hg[6lBmbk?X_lCkAj?Wlj@h<_Yh=edX>h>l@kBjDgRWf",
  "kDjEkFf=mgZMuys<c[]Puy0ZL^M[CSORzQd4UsYISODUZxKUCQORtb:0xbWbT6QaDXdT^SOHUOT[kzSOXHUS;VdIQnRuHQN4",
  "WKKR4SOVJRlQhUS;HQN4gLR6SO^sWK[CSOQ?VbQac[SXWPSO_hQOQaT<T=RuQO=:0biT<T=RuQO=:SOSL:TNjd;vitJSSQf",
  "SO]VvitJSSQfSOHbQTNjd;vitJFQ>SYQ]Q=S1^dSO]VvitJFQ>SYQ]Q=S1^dSOH@X40]LvitJSSQfSOVtvitJSSQfSOQCbQ",
  "mMQ]Q_]LdkbF5o[SOT7R6mMQ]Q_]LiWQDaebF5V?SOT770y0^sbF2]Lv>XTSOQA6SXQvQLQSVxQ=QaUPsaQvVsQBVxQ=QrRS",
  "saQBRSSXQvQLQSVxQ=QaVLsaQvVsQBVxQ=QrRqsaQBRq^MBOSORzQCS1cCU6R8JQSRwU^UsWYQCx?SYQcTlbF2SYzrSOD?S5",
  "UsWYQCx?SYQcUPbF2SYr?SOD?RSSXYlRwiTIQnQSRE]gSO_hOTNiSRDRsVcRtb:SOBaLtlQBQBTm=kPQnU^SOIVESX[w",
  "SO_hQOQaVjibR_QsQO=:bFS9R8T6BRuQO=:0h]ibR_QsQO=:bFS9R8T6BRuQO=:SO=[wSXWISO_hQOQaT<QSRwU^SXEUj",
  "sacxEX[S1Rsjd;QRYjlkT]w36sacxUCQOiR;QRYjlkT]TNU6R8JSSRTglQcQRYjlkT]SOB_VSXQfSOojR^QZhhYR",
  "0^GSmnGPy5RsQkIUwSOeyUjUsQjSODWYQCRtSaROQBQBn40QlUjSOQltVS;YVR8WaRsQkIUwWKKQBT:SOVJMXHUSo20[_oX",
  "TNUqSoj5TcSoTNR<QAglPSo0PQUSoT[TWQU]1SXXPRGSo0[BTNRgPRM@SoWsSFQRWXQXQ<]5haYR0m6TS]ol20kxSoSXHRk",
  "saT<QalvSH0QhER5QZVSSoXJYJSA0[[sz0T7?SKhhyCSXthUP2VL0ujbIXJS1R8SoUsTsBQAQbSoXJUiXwTNctaUSXthTl",
  "XJS3BSdWXQXQ<]5haYRs=VXTS]ol2s;SdEQOSQnRrmQ03g;f]]fO0[_hn0jjQi_9[L9Xg9zj9ZL9[B9tWRj4TfhKU;mj9Xg",
  "9zj9[BW_mj9Xg9zj9[BU;UBS=FZL3[k[L9Xg9zj9ZL9[BXJyBkh0jjQiCXmXjmj9Xg9zj9[BV:fkXNQXV>a^VcDavRjmj9Xg",
  "9zj9ZL9[B9tWRj4TfhKU;mj9Xg9zj9[BW_mj9Xg9zj9[BU;UBS=FZL3[k[L9Xg9zj9ZL9[B0fGR5t>So0rWCXmXjmj9Xg9zj",
  "9[BV:fkXNQXV>V:wzq>]roz]rq>_voz_vq>vXozvXl<fki1fkl<o7i1o7l<[Yi1[Yl<_ri1_rne_ri2_rneXmi2XmyX]r",
  "y_]ryX_vy__vnf[Yp0[YyXvXy_vXnf_rp0_rhzo7i3o7hzF_vi3F_vhz[Yi3[YhzhKi3hKRhHo7RaHo7RhHXmRaHXmyYZL",
  "yaZLyY]rya]ryY_vya_vyYvXyavXRhA[YRaS<r]6R]dtAX4RUdtAX4RhQ>o7RaQ>o7gNhKf8hKSsYLq?fknifkq?hKnihK",
  "q?_rni_rq?flXwniflXwq?XmniXmtsfksDfktshKsDhKts_rsD_raDZ3VSzsSasnDUdRhfJRafJh7]rh9]rh7_vh9_v",
  "h7TSXgh9TSXgR]dtexRUdtexs@fkq@fks@hKq@hKs@_rq@_re4fka^fke4o7a^o7e4hKa^hKe4_ra^_rw8hKsEhKw8_rsE_r",
  "w8XmsEXmfZZLf9ZLfZ]rf9]rfZ_vf9_vfZtWf9tWfZTSXgf9TSXgfZvXf9vXR]iko7RUiko7ngo7p1o7ngwzVvfkqAfkw9[Y",
  "qA[Yw9_rqA_rUaVWavS[XmyW^B9iuWGy^FiuWGRhdZTjcERadZTjcERh_D8Tf^Bi1^BRh[ZpxUyR6U:^B9iuWGi2FiuWG",
  "b^Q<n:RhYM4RiUCW53xoSg^BRaQ=^Bhz^BUXbcRaHV9RhdKTZW_XmSs^Bf8^BUaFWG3ZRKVHXmRhgFQjS=x0UGsDFbmSrod",
  "h7YrZL9vDh9vDhzR=bF_Z6i3R=bF_Z6yZ^Byb^BVqgJRhbPUPRabPUPRhaNVqYMSLT4SCUOsEjPw8^BsE^Bw8sXXjFvDf9vD",
  "Rhq9X?^BV:^Bp1^Bw9XmqAXmnfyH1irXTp0QFT4irXTsSZ4VqixXmRhbPiaRabPiaVq[_EjpwvXmSRhvV>RZUqQ_BcyR1",
  "W6f4BcyR15QMmJTpQORscyR1^>Yjn>RscyR1neQF_rU:baQiQF_ri2QF_rq?X4UabaQiX4niX4tsX4S=baQiX4sDX4s?_r",
  "sC_rRhA_rRaA_rRhC_rRaC_rRh?_rRa?_rfZlor5f9lor5fZlolaf9lolafZloR[B^cf9loR[B^cfZloR[[Lf9loR[[Lb^4",
  "q>lor5ozlor5s?VaWtr5sCVaWtr5s?XO]rsCXO]rhzXmi3Xmhz_ri3_rgN_rf8_rh7vXh9vXh7ptv4r5h9ptv4r5nfQFH_r",
  "p0QFH_rZB_rneY4U:baQiY4i2Y4hzfki3fkRhHh0hcXahvV>S=mjsDmjq>ZhWtlaozZhWtlas?XOXgsCXOXgRhCo4la",
  "RaCo4laq>v2ozv2q>pmozpmyXv2y_v2yXpmy_pmyYv2yav2yYpmyapmh7v2h9v2h7pmh9pms@Fv2q@Fv2s@Fpmq@FpmfZv2",
  "f9v2fZpmf9pme4U<Qk[8Xla^U<Qk[8Xlw8U<Qk[8XlsEU<Qk[8XlngVmR4p1VmR4RhH_rRaH_rtsFbmSrodi2o8RhpqRapq",
  "w9^BqA^Bs?[YsC[YnfhKp0hKh7lor5h9lor5h7a;r5h9a;r5RhC[YRaC[YRhCVaWtr5RaCVaWtr5ngF]rp1F]rUao8S=o8",
  "SWo83S<r]X4U:V<oSaBjroSs?XmTfXmi1Xmq?FWGSWFxLa^^mQDafZ4Vv^mQDafZ4hzxii3xiyWXmXj]1b^V9U;Xmp0Xm",
  "RhQ>XmRaQ>XmR]aVQ@FakZ4RaQ@FakZ4s@Xmq@XmngXmp1Xmb^:3hWb^hWS[^B3_D8Tfo8U:x19UGwY4RiUCW5sSUG3xo",
  "wYxoQGa[UGTfbnYMxo3S<r]Q>XmUX^BRiiZShk8Shi3bc3d3QovDb^R43UnUGWecV^BW_XmuETZk86nisY9bJQf9alu?yH",
  "b^Qj9[pzAodSG^BS=x0UG9alk8V>RaVoa78k8exi1bnezTu[Db^Te9[pzAodQGUGViFbmod9Z49[uHUGwYQAF[uHUGk8Te",
  "1[_Tea^^B3aN3S<r]Q>o4R[UGRiRTc>YMaN3eNo8b^QfSWsXXj]13q9X?^Bb^V9gXjJk8RkqAsX9^ERdU;yH1[plJRdVqExi",
  "S9VchvWHQ_htS1QsQ=px>Q]RY5[_Exi<q3@lhUjSPAQqxAQ_BcyR1]a[3U7i1bnxok8E^BgURaQ>U<[br@Z4b^R1k8Rd",
  "RaQ@^BVqEjpwvXmyeEjpwvXmi2QF;oS3RzQFT4oSkG;VNX[o8SWQooSSWSLT4oSSWB;VNX[o8SgcV;oSUaQooSUaQF;oS",
  "VqxAQqxAQ_VdBSYRBRYSPScUqQ_VdBSYRBRYRagFUn[uHUGQHR[Z4_Wg2aVR4sSUGj@kBb^TenyUGuC[_TejEf=S9py4",
  "d9Dpy4ReY8r95snDUdyer9aq_baXmR_baXS4xiyeEximR[Kaq[Kty[Keb;[KNSiS7XYbITN^c_Wn9Vtc[RmYJSAQuBUeQcbI",
  "S4QzTAbIwJVtc[SGYJSA3x]RjBUeQcbIReWYRrhrRsa2STx7;U3hrRsa2NUqa7Sr_baX3Sp_baXtyl4eb;l4S9JyCRmQRyC",
  "T[QhRY0cs0tW0vXtnZLfXujbI_Wn9QAS:Se;UGNtYbI]aEbc_YjDkFwYExiu0a9M_aqfsIqfRmrKbPWGf^qfu0a9MTtqf",
  "SU[iRzVhUIbPYiSURr;RzVhUIbPYiSzCS1U^5R;S3tUQzT6R6d9snDUdwJ^T[K3W9[K3Sp[Kz1[KViU^RmUix]k@x]1ujbI",
  "wJZLcLR5QsBa2^]E[i_ao35bi_ao3^]E[iTto35biTto3<_?UE5^iQS_?UEwJSpSlTNa3x]2ujbIQgSiS7XYbI2ZLXhYJSA",
  "2U@c[2_v2cs2[B2ev2tWaoujbIQg^c2Vt]LSnaoVt]LSnS4QzTAbIQgeE2pm2gFoP^XSnQgQk^XSn2YMoP^XSnQgQk^XWtW8",
  "2t8^aayU82uj^aayU8_lq4Xl]wq4Xl_l]oSn2vD_l_bZhU82W9q4Xl2^Tq4Xl2dURpXlXhQRSYRpXlY9QMSmulQspiXl",
  "2_gpiXl2eL2loU82ZhU8QgQk[8XlQgctaU2vX2VtjmfYQAScEQcU82[_TSQOUCXlQgQOQQXlQgSiS7XY^aayU82oOU8",
  "2[_oOU82a;U8XhYJQQXl2xjaoxj2a;hlQwTY@cQhl2vPcQhlQwTYWwgCV1hl2vPQSgCV1hl]w_bZhU82[_xBScEQcU8",
  "Qw]NU8Qw=TmZ?Xl2UKSn2VtZLaoU@c[2t8bPYi2ujbPYi2V3v4dTRxQXQQrLmQr1SEl8SUa6fYQAScEQcSn2cuRpXlaoVtjm",
  "_l]oU82^<a;SnndQkCQP=Semh2oIWnY0Sn_lSrRRXl2cfRRXlTNEX4SOzhEVZQyIQc_@T]]wpXSn_l_btW[yzxhY2QEXl",
  "_lpXU8]wpXU83R[W9pXU8STx7;tW2TgWtW82]zLXlaoZhU82QFQWQFTmmhaooOU8z0RmYJSAS[Sy5ZL5pm5UVRRXl2hg[6_5",
  "b__q^@i?hAgUgVeegWiAiB0n@wpQyTZRaQyTZRh_uvESqnMRa_uvESqnMYHotx52[NQ?otx5yZSqXZPXUUyVNbc",
  "ybSqXZPXUUyVNbcW32a]RUYMJR;zcQW[8UvT;RuJR;zcQW[8Uvyeg3JR;zcQW[8Uvw7ngY6c;2l82svSEl8Rhx:Fl8",
  "2QTSkmDlwnfWDWyl8U;REFl8wZFl8Td3m9Wyl8Td3vpl83xnl8RaA[lFsvWOl8RhhWS[^0UXbcU:n:U;vbVv^0U;TZXN^0",
  "uETZqT[w3tKw[uFgT63vYTu6ViZ:TdRiij_473q9Tu[DuDTu_V3ezwZFsv:3vpsv:Rax:Fl8U;WDWyl8U;REFl8wZFl8",
  "3vpsvWOl83hWS[^0UXbcU:n:U;vbVv^0U;TZXN^0uETZqT[w3tKw[uFgT63vYTu6ViZ:SgQRfxijRiij_473q9Tu[DuDTu_V",
  "3ezwZFsv:3vpsv:3m9Wyl83vpl83xnl8R]ZdAUvfYt52QPt52vppiUvRjBUeQcR[piUv3loR[piUvY9VxUvY9AUv2ZdAUv",
  "VquqLRg[wRauqLRg[w2QeSNijRUQeSNijVqVNbcRaVNbcVqLRg[wf8Rg[w2X;SqnMa^SqnMTNRgSe[HX;nBa^nBRhv>6",
  "Rav>6gNnBf8nBRhTY6RaTY6hzRrlwi3Rrlwe4VxTza^VxTzRhRz6RaRz60V3v4LQldRUv2QAS:Uv2JR;zcQW[8UvVqPY6",
  "R]QPt52JR;x?=WDnK2YMJR;x?=WDnKe4Z:a^Z:R]JR;zcQW[8Uv5X;TQa^TQ2QAS:Q^Tqt2R]YMJR;zcQW[8Uv",
  "T;RuJR;zcQW[8Uvyeg3JR;zcQW[8UvTN^LTscywpRWmjW_8U:_eUX_eXjLQzTxUy^:kG4S[PRDQXSYRBQTMZ>QzTxUy6V:6",
  "ZB4Ua_eS=_enwUdSs_eW_mjwa7kGUdp5S[43RYUXUdU:4W_4VvUdVv4Wlwa6fd3[CU;Qj3SHX>nv3T]U;OSW4WfU;UEdd",
  "SWa8TfUdf?e<BR=WeR_SoV:v:RiT<@SoX_uJfbRa:S[43RYUXUdU:4W_4VvUdVv4Wlwa6fd3[CU;Qj3SHX>nv3T]U;OSW4Wf",
  "U;UEddSWa8TfUdf?e<BR=WeR_SoV:v:RiT<@SoX_uJfb3RWmjW_8U:_eUX_eXjLQzTxUy^:kG4",
  "S[PRDQXSYRBQTMZ>QzTxUy6V:6ZB4Ua_eS=_enwUdSs_eW_mjwa7kGUdRhezRaezngX9p1X9RhvK4RavK4Rhczn^Raczn^",
  "RhvKczn^RavKczn^yWvFy^vFRhvKKvFRavKKvFgN_Vf8_VyZ_Vyb_VRhQ=m3RaQ=m3RhThT5WPRaThT5WPRhThT5QB_9TSx]",
  "RaThT5QB_9TSx]Rhy>Ray>RhtXezRatXezRhxnQ]@hdRaxnQ]@hdRhY6RaY6gNRg[wf8Rg[w2V_Sxy4TNa3B^LrNV0Q]@hd",
  "S9QMSmul^dRZ>RBSEDb6S7hYS9VBStDb6S7hYtvL[ay9STV2QYV_Sxy4RmTsXU^2SoTN^LTscy[HX;^VfMZ4a^^VfMZ4",
  "e4SFR5T<@Soa^SFR5T<@SoRhQNFSeR1RaQNFSeR1hzQyFRLjuV>i3QyFRLjuV>hzQyXmi3QyXmhzQyflUGi3QyflUGRhh5ei",
  "Rah5eiw9XO_QqAXO_QRhZdeiRaZdeiRhZdFcgRaZdFcgRhZdXmRaZdXmyW_^LRcWp:y^_^LRcWp:RhbL_QRabL_Q",
  "R]dtUlEUdRUdtUlEUdyZXOYrUGybXOYrUGRhW[LRQRBUyR=RaW[LRQRBUyR=RhSLeiRaSLeiRhT6eiRaT6eiR]QefiUo7",
  "RUQefiUo7R]QefiUo?XmRUQefiUo?XmRhRQeiRaRQeiR]dt@Qc@a8RUdt@Qc@a8RhY^eiRaY^eiRhY^FcgRaY^Fcge4HR=",
  "a^HR=RhW[LRQRBr2UdRaW[LRQRBr2UdRhW[LRQRBQTlIeiRaW[LRQRBQTlIeiVqb7CUCYhRhh5F_vRah5F_vRhZd^BRaZd^B",
  "RhRDx1RaRDx1RhQU^BRaQU^BRhbLZ4RabLZ4gNRQLS3RBr2Udf8RQLS3RBr2UdRhSFx1RaSFx1TuQMCUCYhq>_voz_vq>[B",
  "oz[BR]dtSE^:RUdtSE^:RhRWF_vRaRWF_ve4UCW5a^UCW5e4UCQD_9[Ba^UCQD_9[BRhh5wzRah5wzw9XO[BqAXO[B",
  "RhW[LRQRBUyQ<s6RaW[LRQRBUyQ<s6yY]rya]ryY[Bya[Bh7[Bh9[BRhVoa78RaVoa78RhVoa7[k[BRaVoa7[k[ByX[By_[B",
  "fZ]rf9]rfZ[Bf9[BfZTSXgf9TSXgRhY^wzRaY^wzhzQyeii3QyeingQN[P[Bp1QN[P[BhzQyo4R[UGi3Qyo4R[UGRhRQ^B",
  "RaRQ^BRhRQXmRaRQXmgNrlVzf8rlVzgNrlQ<_ef8rlQ<_egNrlQF_ef8rlQF_egNrlQ<QF_ef8rlQ<QF_egNrlJ_ef8rlJ_e",
  "gNrlQ?_ef8rlQ?_egNQkAQS_ef8QkAQS_egNrl@_ef8rl@_eRhYMs6RaYMs6RhRD^BRaRD^Bq?R=niR=s@R=q@R=ngY2p1Y2",
  "RhxvRaxvR]ik4RUik4Rh_[jzYhRa_[jzYhRhRDflUGRaRDflUGRhbLYrUGRabLYrUGyZXO_QybXO_Qe4HRQeia^HRQei",
  "RhbLSpUGRabLSpUGneyIUdi2yIUdneUC4i2UC4RhRDeiRaRDeidisoQUaRwpV^U7S[SHUXg<mdU;aLqYU;R43T^SW8VvUd",
  "3QR6UaAQDV>gT[4uBSsSHWe8sOUXRQR6TfrISGSHV:6S=Sff?X?8mcTu[4ZBrIdeRi[4X?=VE3Q]QDV>m^R4Tf8V:AQDV>",
  "TuAQDTeSs[4_ZR4Sg[4W3cKn9Sp_baX2snDUd2p]RQRBQoYi2oXtrw7mN^DRagFV^U7RjPU7S[SHUXg<mdU;aLqYU;R43T^",
  "SW8VvUd3QR6UaAQDV>gT[4uBSsSHWe8sOUXRQR6TfrISGSHV:6S=Sff?X?8mcTu[4ZBrIdeRi[4X?=VE3Q]QDV>m^R4Tf8",
  "V:AQDV>TuAQDTeSs[4_ZR4Sg[4T3cYXPT4PAQDV>w>PAXmtt2lvSHpHdXVVR^soQUko=[nQnPSo0^;VVR^soQUko=[nQnPSo",
  "0soQUkoQ<d3SodiQyXHQD;^aayVT]XHTZbYECRd<UxgEg@Sv>Q@=Q=;Q@SmTQUX>QpRdb?a4R=^>YP:SvQOxvS9_^TZ",
  "u<Q]V9ReU2hcS4QNaNSG?Q@VHQjS4[]RQPg<W1QOb6SaVh:ReRDR5RQ;WHQpV[S9l]T]Qu@]XT4RQQ=Z>R4RmR;_P",
  "RmcoQlUSR4RmQNLR=Ss=Q=Sd:RZbdW1UZTzReRDR5RQ;Q@VTQT:SUQNcoRlUlPQk8UtSM5Ts?RksG[DSvQRgw",
  "Xh]yRfS3QX>iE2U1WwQyou^5REQ=SSECRdTuugR4aBSqSmOSTRcAUYReb94bYECRdS9ugR4W1SqSmOj8QqQj3rHTDfL]>V9",
  "nkKUeORZTmSLT4QXRfzYUYbVT6ShmPuVQ@[?2U1QaQzQ=4mPYVS3=UY2U1WwH[iXw<[iXwmPQSVjDS3vmXh_tcJXwf^TDXw",
  "mPTnR;;RQQ=Z>R=2U1QaQ@SqSmQoQ@SmTQQ:Q;VqoHSPT^S4plRZ>g@k<Sz>V9Svlea=QfReT^SUCR6j:ZdUERx[?W6ROR6",
  "j:ROQjbVQjj:Q?W=qI<pTQus4j:D4l?j:ivUZ6j>UZ6W1jq5rru8[eV9c;2PCQY[O2dtPU>ksTS]>V9X?aHaECR6k@PCR6",
  "mP^AQNaNS4[]RQPg<BRXr6TntgSoWWQSQT_P[y_A@kxp[]yT]WWQS[ZR=<SqQCX9YHtgRf_tSn0z^RsRoQcR8Y6",
  "[yTKXER8Y60c@V0QzRk0z^;VdRftDSoReUlV_SxSo0[ZxYQTASo0r6z?bUSm=qc2Ry=Se;RPQBszWWRfR5YL",
  "<Qtl_S:XCpRQyQVzal_Qj5pRHQczal_QjcLpgSmSdQqT4pRUdcLRJ;l_S:XCQT_R[eYaQtVnRUxbRER4UacYWmFZRFn_Vvsi",
  "S8Z_:RZbcRxS3YLQwxP0QMQjSOc@igYi2h]T6QEQaYi2bsTgjs^Dw7VqL_^IRcStn_5aj:sFFIUZv0Sn1vCSRcSFvC",
  "sFFaj>Xlu=vCsFQ0SP[4Re=HRfQO[sTZz0Um[4u3bf^5R4RxnARZTbUmTb^>R4SvsibYSHgQSH<YIRZYI[eR4Sv_PQuTv",
  "wFTvRx=QyUny;1onU8S8QORB;T@Un[_V99y;9l62REiw[CVqQ=[4W1[?Rx[?W6QjbVbfgPSAa=R4u:sFYxR<:SU[4",
  "[yZ_SmTQbUSqISmTQapx>@TQ[yZ_:bUbcapS3YLQwg:V]QwZ>W=XhUZVHT4Sn2vCSPSyw<okoH2[_Q<bcXh]yegV6xYR;VI",
  "2QFQDzZbHXLRpUuQCmh3Xz^IUuQCmh3eL2YMQ<bc[yZ__9V8dFa<aHSaaj>Xl0z^;ZF^NZ5ZNZkZj[V[g[T[f0c@V0VdzgSo",
  "2RzBUTQMqc2V_SxQBqc2fKU1^I]EVqS<X5eY[4aB[?<thoHsFQVS3V[XaQ[QVaHSavCQGU8sI;aj:1oHwfaIVCFvCsI;eun_",
  "ReT6R4ReT6rI^][4RebKaX1onWtsyS9[4Re=rI^]rIylvC1eZVtSnGn_RZn_yll6ReY^R4ReY^rIZ@TbRZQMFaX1eL",
  "QGSxUuRER4RZcoTbRZVHHTbRZy?RZQMFonWtsy^?Z2^fS_QhR4^>rFV91aX1eLVfR3QCXl1Tgstcs1y;Tk[4^>UnoZ^f",
  "bYQUVastcs1onU8QHR[l6k=FeZU81l6[eUnl6QunFl6T;r]Q=[4S8bKTgU_QCQsU89U8Sz[4S8bKonU8S9=rIW1[Z[Y1l6",
  "Rx=rI<QDafZdUERxn3aX1csGShRxn3onU8S4[?XarSaX]xC[4S4n3eZU8S4?[4S4n3l6l>baV91cs1l6QGU8gPQQ^P",
  "UXHR;VIS_VJSAyraX1l6a=T4QpRtRQZuRO4ReY^Uncsa=UnT@T4SnUXCTbsSvCRe=HRfQO[sRE^ACTbSRcSFaX",
  "RxRcxYTh;exUt4ZVyzRxRcxYThaE7SRcSFy;5RYS8QORB;n_u=Z4VfR3V9SRcS[Y[Su=onU8S[QOQh4sSvCttVqY2",
  "RU_aXtbO?QhQSUZFZRFWmYxR<:1Q@n3ZRFWmYxR<:3ra3ZR;oH3XpbfgSdFRi=SH2h]V^_PQw@QOQaVjQARo;RD;HThU7",
  "RUxbR8TcQsX^3RLSrZ3@Rr^KX^3S<r]phVjLnA3V4W>f^SSSHsIRfUZV]u:SU[4sI;n_S=rcY9tIQcT<QS>Q>VHR4",
  "2p]cbo1TtZ[bzZ[2R8TcQs_awvFlrc]BYm4RUnIRObfVqQ<QMF[_V9^>Un[_V90XbYTQsz^;ZFi;[W^^_paud@d?d=d>",
  "0c@V0X;QyQU^PRZUZ^PwFQR^PWWQSQRQ<rGSqm:Uw3Ry_hxtgGSHVqQyUn[_V9SXPWYRt;h]VhTmVZR4QwRLQAQMQRi]iF",
  "w<a1i]iFQwRLQAQMQRi]Rsa2w<a1i]Rsa22]VBa2QgTpQQQSktQDQsZ03W8QwRLQAQMQRi]RsTpQQQSktQDQsZ0",
  "w<a1i]RsTpQQQSktQDQsZ0bF1W8QgU6dyYO2VcLQLUyCbJVnbVVKbJVnQuQB]hBVnTdmN^DVqQMQlR4<thQMQlR4^]UB",
  "S4SqTbUXQOZuR;6RZQM>UBT;r]Q<QM>XEQA]ck<u:Svsia=UBRedGUXQOZuR;6SUhpR4u>gOR4l>UZR4Rmg<qI<SFZdUB",
  "S8QRfxSFZdUB[Sl?yeD4k=UdW1QlR4S_]cu8[eVES9QNRBQTRlQyUBUX[5TbU:Ux>UBY9QP>RQmhSPSyT;T6R6",
  "2QFQ@QlRQmhSPSyT;T6R62QAutSESnSPSy2g3QFZRSEid3zWSZndutSESnSPSyndutYeSLS3SES<T6R62SLS3SESnSPSy",
  "2QAh0R=[ySFQRWXXw2RTZut[TL2QAZ>LUSR=2V8Vt^f1U82l6S[Sy2psRTQc]LSnS[SyXh?RBUj2VoQhbl",
  "W32X;VmRJUyQFRQTvSsHQlR4Sg40c@igKbKonW7QtPXl1Tgstl61onVXcfU8QJR[y;1eZstcs1Xz^IUuQCXlVfR3V9yly;",
  "1onVXcfU8RZQMFeZT_QtPRlRDQb;SxUuRER41Xz^IUuQCXl^>HXmqMoZ^fQunFy;1onVXXXSn1eZT_zQSnS8bKeZU8",
  "1onVXcfU8Rx=QyUncs1l6QGVXcfU8yd[Y9U8yreZU8VfR3RER49V9l>FWG^>UneZT_zQSn1vCqMeZT_zQSn^5rFc@igREHXl",
  "QIR[V8dFbYQUbac@igRET4R[V8dF^>rFc@igRET4R[V8dF^5rFc@igRET4SnsFFXbYTQsz^;XDV8SnQHVQSn",
  "S8QORB;T@UnXbYTQsz^;XDV8SnQIVQSnQIrEXlSRcSFXbYTQsz^;XDV8SnQHVQSnu<H_NQhXOXbYTQsz^;XDV8SnQIVQSn",
  "ylXbYTQsz^;XDrEXlqMXbYTQsz^;XDoZSn1[_V9Rxn3y;w1>_;QidIu7YPj16gPQQ7cL:SPTrT3RQYPj16Rx>[Z75QMWi7",
  "Sz>aH7yd7S8>[Z7RZRQQM7UmTrW6Sq7S4>[Z7S4]XYPj16bY^oRZ>YPj16Sv>YPj16[eYPj16SUTrS9>YPj16Tk>YPj16",
  "NRQYPj16ReRE:STdIRxdIUm>QM7SvTrgQ^o<>UZ_RRZ>UZ_RwSSv8QuQR7wFQR7W1>[Z7SR>aH7l;[ZTs6owW[>[ZTs6",
  "2nEWiTs62==iU=lr62Ro?lr62_AR0T<Ts62=iUlr62cBKcBlr62CR0lr62CS@[ZTs6QwZ>W=VqQ?TrQ=RXQ?LSkZF^NZ5ZN",
  "ZkZj[V[g[T[fnhqCZU[SZVqJ]9RZTmutQRVIGQ0ZiZPYv]:^lZWZXqKYuS4eHmT]AZAG>QVCfQ8Z6^6YtZyaaZYG[qQVCfQ8",
  "TkQQSEnHmcdeQg^unG^V_ao3_oo3ViR5R^@TlT3Zf^eR^@Tlbzo3_oo3ViR5R^@TlGS3ul^Dd9cs2_akOsnDUd2TtkOsnDUd",
  "Qws5CSkQ<QUQ?SHS4KUSR<R;SHtr2oX2QqQ>zVQMTQW3bUQTREPQMTQbUQX^FSo2REIzRSXSqQOQnUyQiQM[?SPZcS4SqTQ",
  "RZQMX9YZRkSPTrSvSHYZQfb?QfSUZwRx>[?W6KX9Rmg<qI<Qv>X95TvS86j>>>RJRknkUES_]cY?TQ[e[?Xh_tTvycMQM[?",
  "UtBBkuq1RZTmaNcKn9j^Zr=SeaEZwXh_tj^Zr=SeaEZwYQbm4X_jBbmTrUaZfTrz2jBbm:UaZf:p5cKg2X;^V:XLRpQS^V:",
  "UaZf7WfcKn96YQbm6WlX>RiZ>W=Xh]yTnU0Q<TrW3mPTnU0Q<TrQuQ=QB>iQ5RrXTSPgdQu@[8gd<VxP[qQMTrmN^D",
  "mPRfRDC^S;Q@QnWPSvAQ@TrW1QnWPSvZoUEReR<7qBZdQT7<T<Rf_^Q=>X95QT]XgddiISx>igUxxvQuU7QuShQuR6QuR4",
  "5mIQUVIQuY4YZQfQu@QfQuLWPQuR15TbQuQj5TQQuO5Tv5XSQuQBY4QuUY5SZQuQBR4QuQfRZmIQUVIRxYIQuTv2[ZQ=px^D",
  "WdWbul^Dj7SFQR^DW3Y9^k^ddiQBPWYRtq[IpRQMSqTnTysOsPz6S=VIS=Q?VIS[R=deUaV[UaaURiWP",
  "kbc@igWmFSmRElhQ=Z_:9@_CSrQ=Z_:wer_QLUL1Spr_QLUL1SmRElhLS3YL9iYSrLS3YL9tXcs9SrtXXw9SptXXw9tXeL",
  "1cs1SmRElh@_CSrQ=Z_WOcswer_QLcQR[cs1SmRElhiYSrLx>Y;cs9@_CSrQ=Z_WOSpaXwer_QLcQggaX",
  "1SmRElhiYSrLx>Y;SpaX9Sraj:9Spaj:2REiwRDFU@vf;aj:wfaI3eZU8VqQP[in_fYS3RDWXtXXw2iqtXXw",
  "VqVJWyXz^IUuV9ylXz^IUuQCXl[eUneL1onU8Rx=QyUneZT_QtPXl2VtZ4Td2Ryd6I_tSnY9AS3Rwp[_tSn",
  "sfRU_aQVQXQYQMMQ>?Y4f^QVQXQYgp[8^_1UT>QM:1REgE[CXhUZVHkP>Q>AU7QwthWmdfLrHQB>O2Sbc]IUZV]",
  "2VpRfUZv0U@RfUZV]VqiUrFQCXl1vCu3SFFy;[eUny;S8bKTgstl6W1[Z^Pl>FTSWGydFl6u=eZstvCQIcs^>UnSCUO",
  "SRcSFS<Q^Tve6ahvun_wJoHRZQMFonU8k=FonU8S4n3Xz^IUL<a9Qm@QVaISv>nF[_QCmhQunFonU8Rx[Z^P",
  "W1[ZVastQ?Sk^f^]rFV4mhS9=rFV4mhRe=rFT6T4Sn^>rFVJV6Snu=eZlf;SxUuVJV6SnQuQ=pxQTSQ[4aB[?S=rcS9=rFV9",
  "Re=rFV9ReT6rFV9ReY^rFV9Rx=QyrFV9wFnFl6QuQ=pxUyQ@n3l6u3SFFl6QGU8l>bac@igRET4SnS4QzUERUQ=QORB;n_",
  "sISQQORB;n_3T@H_NQhXOeZU8XaQXdE_PVv_P2eUtXcs1U8QwZ>R;Xl2eUbeU8e6d6Tgkq[AbeU8RUTtQVaI",
  "sIQVQXQYQOMQAosRiYIRjTvaB[?S=CWyLS3YLf^egWyLS3YLsIQVQXQYZ_Y=QMZ_:1S3_8>Q>V]1QTMQ?R5UEVfUSTZ",
  "1Q@AUE1h0Q@Q=:Sg_A@kxp[]yT]RiRVQS[ZR=bUR5D?Ruh]V^_P2gFQ<Sq[8XlQgR<ZHSQZ_:RZbcRxS3YLS8Z_SmTQ",
  "RZSqISmTQRxx>@TQ2bPTwcsk:^fi4_CSndaeL5eZU8i4RgXl2^iSQZ_SmTQRZSqISmTQRxx>@TQRU_aQVaI[yZ__9aX3cs",
  "apx>^P_lpXSn]wpXSn_lpXU8]wpXU8aoSrpXSnnyXw]wpXS@QCXOXwbUSq[8f@Xh]yQSARzQDV^QoVJV6xYR;VI",
  "vyQCQTTmz]VR[_BeENeEnjf<2X;^V:f[e_ZUe5ZVf;mX_YN^Rwm<^V4[Se8N^R;8<^V8]9ea]A_1ZlbA]B]k^l]:e9^6bZb[",
  "a_d;bxYv_2ZWb@YtqGVIZP_XZibWZ6ZYZXqKZAnnT3aUa@_GdbYuZyYQex3_A4sBhqtzd_WlaAWfabjFkLTf^Rwmwa4X__K",
  "Tf^R;8wa8X>b]oyYQDcaHQPSqSmQzwmRjVE2dPQw@XdQBVRhpSmTZ3QThpSmTZ2x]2ujbIXLsV^RzA4Xj4Xj][VqxvRxHR=",
  "S4HR=i:Z@r;S_R=mTSUTLSz[:QATentYQQC[:Rdp=w:w;^z^NZ5ZNZkZj[V[g[T[ftq[z_a[0RtR^XwVqB^RhDUt4Utex",
  "QuVEVC4VC][RmQOQDQOStQ<V]SvR=k9TLS4TycN:S4xiZ@V]ar:T[cVx8QTxhWWRseEnjf<Tdnhe_ZUe5ZVf;mX_YW3[Se8",
  "W3]9ea]A_1ZlbA]B]k^l]:e9^6bZb[a_d;bxYv_2ZWb@YtTdZP_XZibWZ6ZYZXTdZAeB_GdbYuZyW3sBhqtzd_WlaAWfabjF",
  "kLW3X__KW3X>b]oyVqLVOSETZQ:Q;owXCpnc;VqQAYLS_R=TdSUTLSz[:QATentYQQC[:Rdp=zM^NZ5ZNZkZj[V[g[T[f",
  "VqQzfl^9Tb1[N^9Tb2m>=QcYik>Q0QgR<QAglSaQ?otzdTl[W^^_patr]QPUynTQ<QUQkQRYRRZQUQkQRX2QSg=]Z2R5ZuSZ",
  "j7Sx>UNVqmJ^S;^btqQwSxVxUNpHER<IZ>VxVRUZUSRlQRxJSPQRxJf<Tdnhe_ZUe5ZVf;c;qCe8W3qJea]A_1ZlbA]B]k^l",
  "]:e9^6bZb[a_d;bxYv_2ZWb@YtTdZP_XZibWZ6ZYZXTdZAnnTda@_GTdYuZyW3sBhqTdd_WlaAWfabc;me_KW3mZb]oy",
  "eBVCVHX9lYVqYaR=S4HR=i:qKTdmTlY^z^NZ5ZNZkZj[V[g[T[f2Q]DnM2UZVHR12Rc62R<:2v4QQLSZ[zPUSZEtq",
  "sribQ>QO>Q]sVeEnjf<Tdnhe_ZUe5ZVf;mX_YXLRs^RwmTdVq4e8XLRs^R;8TdVq8ea]A_1ZlbA]B]k^l]:e9^6bZb[a_d;",
  "bxYv_2ZWb@YtTdZP_XZibWZ6ZYZXTdZAnnTda@_GdbYuZyW3sBhqtzd_WlaAWfabjFkLTf^RwmTdX__KTf^R;8TdX>b]oy",
  "W32dPQ2bFVqQC[:QATentYQQC[:Rdp=zM^NZ5ZNZkZj[V[g[T[ftq2m>=szlYVqQFR=WWQSZ>W=<g:V]RmUZVHR4",
  "5y8TgQ?Z>REmhNSiRIQ?Z>REmh5mGbeQ?Z>REmhdiQXA[qsVeEnjf<Tdnhe_ZUe5ZVf;mX_YW3[Se8W3]9ea]A_1ZlbA]B]k",
  "^l]:e9^6bZb[a_d;bxYv_2ZWb@YtTdZP_XZibWZ6ZYZXTdZAnnTda@_GdbYuZyW3sBhqtzd_WlaAWfabjFkLW3X__KW3X>b]",
  "oylY5U@c[owStpnowXCpnc;VqQAYLS_R=TdSUTLSz[:QATentYQQC[:Rdp=zM^NZ5ZNZkZj[V[g[T[f2R5ZuSZ2ik:",
  "[ynRrmQ03g;f]]fO5QQTjg=t_UBqQUB5SwTjg=T6ZrOsrREc^VR^bf<Tdnhe_ZUe5ZVf;eB[SqCe8Td]9qJea]AeB]B]k",
  "Td]:Td^6bZeBbxYveBYtqGVIZPeBZ6ZYZXqKZAnnT3aUa@_GdbYuZyc;d_WlaAWfabeBX_me_KTdX>mZb]oyW32dP",
  "sfowXCpnQ=Q;^z^NZ5ZNZkZj[V[g[T[fh8itu63W<2VHPSoXhQQQPSo2T@QOSo2RzKQnSoQgQhQ<QnSoowQoS@mJSo2m>=sz",
  "YHtgSokb@RD[x?sVa3BcTQ<XCSnNeEnjf<Na3]ISESnnhe_ZUe5ZVf;mX_YTd[SqCe8Td]9qJea]A_1ZlbA]B]k^l]:e9^6",
  "bZb[a_d;bxYv_2ZWb@YtTdZP_XZibWZ6ZYZXqKZAnnT3aUa@_GdbYuZyW3sBhqtzd_WlaAWfabjFkLTdX_me_KTdX>mZb]oy",
  "lY2pnowStpnTdVq@WPRZd8S_QAYLW3GUS>QOSERytH7W3Sz[:QATentYQQC[:Rdp=zM^NZ5ZNZkZj[V[g[T[f",
  "lYWWQSU>RQQj[ynRXDWzSkfL]dQYDQbv9T<wsatfL]dQYDQbv9T<wskCfL]dQYDQbv9T<wsgSfL]dQYDQbv9T<ws",
  "atfLb0DQbv9T<wskCfLb0DQbv9T<wsgSfLb0DQbv9T<wsWWUM?S77h6zTUZ>Rp[0RtrPeENeEnjf<<U>RQQjnhe_ZUe5ZVf;",
  "mX_YTd[SqCe8Td]9qJea]A_1ZlbA]B]k^l]:e9^6bZb[a_d;bxYv_2ZWb@YtTdZP_XZibWZ6ZYZXqKZAnnTda@_GdbYuZy",
  "W3sBhqtzd_WlaAWfabjFkLTdX_me_KTdX>mZb]oylY2pnowStpnsfVqQ?US>QOSERytH7mTbFT3aUTdSz[:QATent",
  "YQQC[:Rdp=zM^NZ5ZNZkZj[V[g[T[fTd[zQ>AHQCSqSdpkw?UZpgQTpk=RXIpRQMSqsVa3]ISESnNeEnjf<VqmJ^S;^bf[e_",
  "ZUe5ZVf;mX_YTd[SqCe8Td]9qJea]A_1ZlbA]B]k^l]:e9^6bZb[a_d;bxYv_2ZWb@YtqGVIZP_XZibWZ6ZYZXqKZAnnT3aU",
  "a@_GdbYuZyRe@TZ[ztjgzNSi^Kgztzd_WlaAWfabjFkLTdX_me_KTdX>mZb]oyVqTgQhkz[zVh:c;VqUCrNXCQjf=UaJRd",
  "owXCpn[ynRTwZ1V5Q<MSxhLQEQ]dG3R2Q]dGf]]pQ]=jvdaR7dHdGSWQUUBf]R7dH=jvdav@UBVquqV;Sz[:QATent",
  "YQQC[:Rdp=zM^NZ5ZNZkZj[V[g[T[fh8itu63W<[ynRrmQ03g;f]]fO5QQTjg=t_UBqQUB5SwTjg=T6ZrObUx?Yi",
  "VqUCTskuTnV>edz5_Ynth<diQBQRUx>sVeE5]I>TLSzR5WB>TLTdVqepQuepQucB[@Qu=cB[@YZe[YZAe[VCe[VC?e[",
  "5Rc?e[5Rc??e[5Ts?e[5Ts??e[TJe[TJcB[@QuAe[Ute[UtCe[Qu?e[eB5^QoLLepi7RQoLLep5^QoLEepi7RQoLEep",
  "RxQTREQ>SE]X>RBL[qTL<zVUSSEEep5^QjYupRsepi7RQjYupRsep5^QoLQ>epi7RQoLQ>ep[eQM?Q>SE]X>RBL[qTL",
  "RizVCVmSE]XUSRBL[qTL<zVUSSEQ>ep5^QoL@REe[i7RQoL@REe[5^QoLQ<VHe[i7RQoLQ<VHe[Rm?R<Q<RQQ>SEQ?ep",
  "<zVUSSEQ<VHe[5^QoLREe[i7RQoLREe[5^QoLVHe[i7RQoLVHe[RZQTREQ>SEQ?epTd<zVUSSEVHe[5^QoLDepi7RQoLDep",
  "5^QjYupRlepi7RQjYupRlepRmepQuI^nRlepSUepcLe[TdRZQTREQ>SEQqe[W3Szep[eQM?Q>jVepRm?R<Q<RQQ>jVep",
  "RZQTREQ>jVep^5e[Rm?R<Q<RQQ>SEQqe[S8epeB[zQMMQqLR;:c;YQZoQqfmvISsVTQ];ZoVHfmvIU:QWSEZoVHfmvI",
  "SsVTQ];R5fmvIU:QWSER5fmvISsVTQ]YV>YeDvITdU:QWSEdRYeDvITdUX>VTREfmvISsQk[souU:QWSELQk[sou",
  "SsQkKXCRzYhSsQk[sQCSERQSEZoQqfmvI9VNSEZoQqfmvI9EV^QTZ>QnTZUXV^QTZ>QnTZsf2JrSZFi;[W^^_paud@d?d=d>",
  "W3YQVNSEXQVTREfmvIYUV^QTZ>QnTZmPWpTcQ<QMpkr:QPshRsjdWpSkZd6RxS:WpRQ6SsaQX9SsHQDc=SsHSAm]Ya^8",
  "]xSkQ?E7NS:q^TQTfHU^TfH^8<CQS8NS:RsS:4SUSkPU^tuRsRQV]ReSkdRRER1UmSkQPTQS=RrgsQP8TuaQQP>8GSkQ?SH",
  "tu;RzR1ReSkRE8UmSkQP]^XNcoTQXNimGSkQ?75R0Rl>UTc=tv;T7:S9S:;XZ]^S8CSQ:S9S:;XZTQS8CSQTQ",
  "S9S:QSSqDRQ8_nzBSUSk[qR1e6;rq:S_7i4XtU^T37SRCkPSH<Cwt:ViSY6Ri?:j8;VxT:i4q^Sd:5Sk^8j8egYay>",
  "S9shj1VJ6<QOSE:i7StHQTMUSX9<QOSETrRjQjWlaAXj4XjU[WfabnoQRQP7c;QgR<QAglPUFJRlcoQfQgjdQSQOSE4Rj4X>",
  "RjAuVUT?TQ1[8UTQMc=W6LYaRr[q8i7APSqhji7QnshYa7i7SthZXN8u@6TfRQ@REW5UmQTQPUSRQQfGbNRQVxQf",
  "SUSqUSLTQS8VWITQ^z^NZ5ZNZkZj[V[g[T[fQgjd;RrYaQTYa7RxHQkZwQ3kbQqSkQiL8RxS:QS]^Td_4QjTdS9QMfNR=]x8",
  "N8S9zPRsR=<SkREQjTdS9x8Q>R=^O8S9x8Q?TLz6SW]OU:V]U:r;S=VIRZ8wSUmCQS]^_4QjS9x8r;yqSP8S98S9S:QS]^",
  "S8CSQSAbF_4QjS9S:;REQjS8CSQbHbFRi]^S9zPRlR=u5qNi4XtU^bFysTdT38bF3SCY6Tdu;<iTLQAQnQSR=RiWP<CQS]^",
  "j8QS]^S9x8aU]9j8;REQj2t3RBOYQ:SG>xeTQz2RjQjWlaAf=V:RkWfabWWYVx8gzXLRpuVxeSAQwSFAQCW0VRhdS=h3",
  "W3YQ4U;6X>RjRk_KTdapSkV[Td2bP[8SthZXN83l7TfugW5QgiSRDQq[cYHQWXQT5:zM^NZ5ZNZkZj[V[g[T[fW32S:Tn8u5",
  "VqYaIXCE8S=h3Q3sbQ]KVTQTQSq<dPXh_tEQZaEQWuWSkRw[<>Ru:9MS7uTQ?SqRlBfFTzQGEQZzEEzB",
  "5tEPQWuWCRfQ<R;zBNfQR^PQWuWCQSEW[zBNQOYlPQWuWSkXZR<ZmQYTzSUQWuWSk@gEEZmQYTz<xBSdwuSPQBLR<aEQWuW8",
  "SPLYezDEaEQWuW85krk6S1zEShRZRDUTAQZzEERl_hSZu7R6^OR5wuRegEEwu^OAQo@gEEwuS_QRq^QU[0[oQBwu",
  "S_EvuWawuNQOYlMQ<QF?QYQAf3QoIQcvPRsTQS4QZzESh2duCcba4sVRQQYQAf3OUaRQEuTf3O",
  "2S3YjduS1QMRpQSU4^ABUyMUCX3QAf3O3MYaP?QY[wRiQ<VWUMZu[xO[zQAQ<RDcOLX3EBiiYUQ?PrLYUQBWgS=Tm^ABii",
  "YUQ?PrLU:LX3QAQ<RDTnlZ^z^NZ5ZNZkZj[V[g[T[fSTx7;Tl[W^^_paud@d?d=d>VvQN8Xh]yRlQBQ<V1QAf3O",
  "GXQeYQF[oTnPStQFV[NQOYlMQ<QF?QYQAf3eYQFVxRfQWRsTQGXQeYQF[oQSEZ=QAf3OmSp[E8j>SEMXZQA7",
  "S4[xuTf3QoEPSAYU[qO5RrWpHRr^APSAYU[qO[zPQOzEORmQOzEOVqYh_1ZlbA]B]k^l]:Td^6bZb[a_d;bxYv_2ZWb@YtZP",
  "_XZibWZ6wTj>R=RZd8RZQFR=aaSvR=i:5M:ZYZXZA_GdbYuZyf[RxQBWPS8g=r@pcYLRxYhqKc;d_WlaAWfabjFkLc0p=X_",
  "meX>mZ[zQAQ>SLQS?hHSEm=S_Q?SqRlBYIYQYM61V;sBPStQFQqTn>SEV]<Q?SEJQ<TQXh_tUxQTTZS9QM?TZ",
  "WWXtBStQAf3OSURruTf3OT3BQciv>RsTQRmUC?RsTQS4rqRsUyQAEPQvOSGQsQAEPQvO5[_IUC?RsTQ",
  "w<_@VSVRJBQciv>RsTQSGUC?RsTQ3[_IUC?RsTQw>YhnsmYUXR=w]uBmcsOTdsPz6SW]OU:V]U:r;S=VIkIuImdU:R=f>i=",
  "TuR=maS[R=h@SWWPnwR=U:d8kGR=kEVvR=qY3M:fbdeh?f?RiWPlEddp5SsQBWPSgg=r@_yQV:1TL1YLTdapXCrqWpR=",
  "Y:QFVxRfQWRsTQQgQTVYtJVRYpz>X9UaUoiUX9TfRr;T6M7RiKRo;MUCTbQwXGcOQATsRl7S_QpuT_eS9UZ^XEQ<TQ",
  "S_QpuTQ>QcQAEvuU4QjnoR<zCGQXRl7Y@PAQoMYaPWqYUQBS7;MYaPWqY:QFrGMYaPWqTd[zQAQ<RDTnTmuTQ<RDcOLSZ",
  "YUQBWgXh]yRlLYezDE^AAuWSkQAEPTQbFSPQBLYezDE^AAuWSkQAEPTQRmQ?PSqaEQW^AAuWSkQAEPTQ^OAQo@gESh",
  "5tExBv0QAQ?PR^PQWuWCRfQ<R;zBNfQR^xBv0QAQ?PR^PQWuWCQSEW[zBs=VVnGQCS3Q]So0^;VVnGQCS3Q]So",
  "s=VVnGQCS3Q]RpFdF0^;VVnGQCS3Q]RpFdF0Q]KVTQTRf_tQLUZR^IUCUyQAf3OReQzTsR^IUCUyQAf3OQ3kbIj1IX3QiYh",
  "_1ZlbA]B]k^l]:e9^6qGTLbZb[a_d;bxYv_2ZWb@YtZP_XZibWZ6ZYZXZAaaYuZynnf[Y?Uy:ZUe5ZVf;[SRmV64]9ea",
  "XLRpUMQt;Trz2WlaAWfabX__KSGV6V;_q3QcSn[z^b5eLf<sLQuQBX9s>VRU5Q_TL1YL1W5uKVqV3SmQS:^z^NZ5ZNZkZj[V",
  "[g[T[fWWXtQn@QLmiYO<XPYOQws5SCB>Q]RYNR:QdXTQuR2SFQURGXTS4QUAQ]RY2X;R=dbmXz5_YntYQQC^tkLc0p=",
  "VqgsTnTyZBR=S[eHS[sss>RpRfV6U5Q_VI9Tz9V[2X;XQQDWpQOQUQSR=XLRpQSXQQDWpQOUl=7",
  "2bPI]yQSXQQDWpQOUlRQQP69LQcXZ82ikSL[nYVQDSkrUUl]O9DW5XLRpQVSL[nYVQDSkrUUl=7QG][",
  "WWQVSL[nYVQDSkrUQUUMZ1S59@Z1RS9@Z1Rq9@Z1S09@Z1S>VqZq[nYVQDSkrUQUTnVI9PW59xYW5YQWHKSErUUl6",
  "SsV^>T4ex^@1U[2X;HUyYhnsmYuBqYsPmdf>TuR=z3mauIdds>RphIUyU5QMQV:XLRphIUyTr_59Sn^?]5RkWWhIQTUMZ1RS",
  "e=Rqe=S>e=S6TfC[<TsUMZ1RS_6Z1Rq1p]RQSeo3VqQAS7>Stb7>[oSQ:[zQAS7>Stb7>[oUMZ1S>QwHUyZFi;[W^^_paud@",
  "d?d=d>WWWp[5Q]UMZ1S5e=RqYQ>QnV6:1c=QwXGhIUyTlU;QEeq^d0WHrnaRwpTQS[TQUXTQU:SA3SHX?TvVvSHSWTQ3Tv",
  "SsTQbyOSGTQS=SZ3SATuSZVvpfm]4RiTQSWSZ3W=TupfSspfUXHTQaBSZe<TvTfHTvTfTQZBWqTfWqTfpfgTTQZBHTQ3RQ4",
  "u>3Vx4Xa4WeSZ3S:4TdV:V>qsRjSHW3VqTQSPTQS4TQRZSA5SHSzTvSvSHReTQ5TvRxTQW6ORmTQGSZ5SAS9SZSvpfcL4<TQ",
  "ReSZ5W=noSZRxpfS4HTQW1SZu8mSTvNTQTkWqNWqmSSZYbTQTkHTQ^54k<ST^:wWSTSZj84S86SUV>5RDWi6ReY8ETQQuTv",
  "2VhTmX[qc_Wn9WHrnaRTnSZ0WHrnkoQi>SHSTR_SoW6xAx5j4zWRsS:vdVWWp_dbBb2f:W=5ccbBccS_jgRmihS9RWV?bBa5",
  "V@WIbB[mh:]^NcvbBfzN]KaLRx]KblUmkpnolzwGR4p3b2bBvTp3ccp3a5txb2]_vTbBrp]_cDu4rpsKa5u4pod<b2d<vT",
  "d<ccd<[md<rtb2d<rtccd<rta5S9Yq_8gD[md<rtfzd<fzd<xES9YqY=kpd<vau4a5u4vea5dcb2dcvTdcccdcrpdcpodca5",
  "dcD_zb2dcve[mdcRW]^dcfzdcxEdcYaU?blV@CZKkpdcvadccDNT5tbS7[mNT5tbS7ve[mN=VWUCdM[mN=VWUCdMve[mS9sk",
  "wHb2wHccwHpowHa5wH[mh:[ofmskbBRW]^wHfzwHxEh:[oY=kpwHvawX]^NU?BMRW]^NT5tbS7fzNT5tbS7vefz",
  "N=VWUCdMfzN=VWUCdMvefzN]KUCMYaU?blN]KUCMcDNT5tbS7xEN=VWUCdMxEnoYqt:a5u4vabBcDu<QXQRcDRxrTccp3[m",
  "p3fzp3cDtxrpS8tDTe2Q>[ovdVWSQtDTef[Qu4ZYSUY2TJ8[SSUlpSU4]9aaSRY2Ut4qNZVSRlpwWyyyzTJ7SU6ZUQuM8",
  "QuM7SUYe8SUYeh3TJX<8TJX<7TJX<=7u<X<8u<X<7UtMlpUtM4UtMk5UtM8UtM7nqTLnqPY2nqT@8nq8nq6VCM:VCMY2",
  "VCM=X<=7VCMk5VCM7qO:qOlpqO4qOT@8qOk5qO7qO6TJ[F7TJ[F=7SU^r7sJ:sJTLsJ8sJ7sJ=7sJQOZo:qBZo:qBZoYelp",
  "qBZoYe7qBZoYe6bBQOZo:QuM=7SUYe7u<X<TLUtMTLUtMPY22Q>VWvdVWWp_dbBb2RxrT[mf:W=p3fzp3cD5ccS_jg]_b2",
  "]_po]_a5]_[mS_ZGY=kp]_va]_cDRmihS9RWV?d<[mV@WIbB[mh:]^NcvN]KaLRx]KblUmkpnolzwGR4RxrTrpRxrTrtb2",
  "p3b2p3ccp3[mj<fmskj<Y=kptxb2txrp]_LrT[m]_vT]_cc]_opcDbBrp]_IdMMb2]_IdMM[m]_D_z[m]_D_zcD]_LQlnaa5",
  "]_ve[m]_Dsk]_YaU?bl]_T@QXQRcDsKb2sKrpsKa5sK[mj;_8gD[mj;fmsksKxEsKcDu4pod<rpd<vad<cDu4a5dcb2dccc",
  "dcrpdca5S9skwHb2bFwXmHb2h:[o_8gDb2bFwX[o_8gDb2bBRW]^bFbBT@RB=]^wHYaU?blbFwXmHYaU?blwX]^wXmH[m",
  "wX[ofmsknoYqt:a5u4vawGt:vTwGt:rpwGt:powGt:a5u<QXQRcDRxrTvTRxrTa5RxrTxERxrTYaU?blRxrTcDbBvT",
  "e2QPARgvEq<R=ST7ST6^5:a=4k<ST8j8:ZAT37T36W6:w=45SMT38T3W5STR=ST_RST[DSTdISTeQSTUdSTZ:STHW5Z6Rm7",
  "wMRmTrbV4wLu5RmW5<d8<QF7<QF6<QFTr<QFU[<s6<QF8<QFW5ZXS_7S_6cL:^>4S_4ysS_W5Yu<7yt<Tr<U[wP<8<W5_G",
  "Y?7Y?6<dI<eQ<UdY?8Y?W5W1:W17W16W1TrW1U[W14W18W1ofW1W5TdW1^ZW1_kW1huW1[dW3W1R=W1_RW1[DW1dIW1eQ",
  "W1UdW1Z:TdW1HW5TdW1H^ZW1H_kW1HhuW1H[dW3ZiSP7SP6SPTrSPU[SP4SP8SPW5a@Sz7Sz6SzTrSzU[5RYSz8SzW5YvRe7",
  "yw[e:ReU[u9wS5R7:]kN7N6NTrNU[N4N8NW5Yb:Yb7Yb6YbTrYbU[Yb4Yb8YbofYbW5TdYb^ZYb_kYbhuYb[dW3YtG7ypGTr",
  "GU[wNyqGW5^6^O7^O6^OTrGq;^O4^O8^OW5S4dvQ_:WfWlz2meX_X>kE]ARx7Rx6RxTrRxU[ynyoRxofRxW5TdRx^ZRx_k",
  "RxhuRx[dW3wI:wI7wI6wITrwIU[wI4wI8TdwIW5TdwI^ZwI_kwIhuwI[dW3aaSR7yySRTrSRU[wWu;SRofS9VchvWHQ_:Wf",
  "Wlz2meX_X>Tdi:Sv7Sv6SvTrSvU[Sv4Sv8SvW5SvR=Sv_RSv[DSvdISveQSvUdSvZ:SvHW5ZYyzSU6SUTrSUU[SU4qNSUof",
  "ZWRZ7RZ6RZTrRZU[RZ4RZ8RZW5a_Z@7Z@6Z@TrRZRz4RZVzZ@8Z@W5]:Tk7Tk6TkTrTkU[Tk4Tk8TkW5ZlS47S46S4TrS4U[",
  "S44S48S4ofS4W5TdS4^ZS4_kS4huS4[dW3S4Tya?7a?6a?Tra?U[a?4a?8a?_k_2Um7Um6UmTrUmU[Um4Um8UmW5^lN_RN[D",
  "NdINeQNUdNZ:mSW5_XS9_RS9[DS9dIS9eQS9UdS9Z:noW5wTj>7Re_Vj>Trj>U[Rea8j>8j>W5Red8ReQF7ReQF6ReQFTr",
  "ReQFU[Res6ReQF8ReQFofmTS87S86S8TrS8U[S84S88S8W5ZPS97S96S9TrS9U[l?S98S9W5S_TLRmTLS8TL",
  "W3Qga3ESFQRS;Y;QCW0;pnsM;pnS4SFQR^DQwXP[ca<QXQ<QBD]GtttrQwxPQga2Y9QhVVcCa2w72VhTmX[qc2swZ5ZNZkZj",
  "[V[g[T[fh8itnlUmji5t7S8jhmWX6<xUqDX6GxgSTV2R6ReUlW<eBQwk6QLSSKSmiUVkIW5Rm^ZRmhuRm[dbYKSmiUVkKW5",
  "SP^ZSPhuSP[dbYKSmiUVkQ=W5S8^ZS8huS8[dbYKSmiUVkDW5S9^ZS9huS9[d2dZQ_I_tPThT^U:QNT^VibNWYR1",
  "waWYLWYR13RJQ=X9SsQUX9TfVxQhQf3VxRzQfU:QN=QrVxRzQfSsR<QfhUUCQNCktQc[6[SZU]9ZVSzQ0Zl]AS44S46S48",
  "S47S4V9Zyk<ST6ST8ST7STV9ZA5SMT36T38T37T3V9Z6wLwMu5Rm7YtSTVIG_PwNypyqG7GV9nk:nk4nk6nk8nk7nkV9Yu",
  "<Q0wPyt<8<7<V9ZWYvRZ4u9RZ6ywRZ8RZ7RZV9RZV[ReV[ReSMRevORehdReJ7ReJV9wTRea8Re_Vj>8j>7j>V9aawWyyu;",
  "SR7SRV9ZYSU4SU6qNyzSUV9RmV9W3Rak5V:6V:8uJV:V9SGV9pHBupRJQTQSk6S1QolvSH[Sa>6ZUe5]9qJSUpBW2yhU[Wl",
  "f[e_wWXMr>4yyXMr>6SRV;XMr>V;u;XMr>8SRW2XMr>W2GeGzYQVW2aaXMr>:SRTrXMr>TrGeGzYQVTre8SUlMr>Q0S4xi",
  "j:Xg3[L3iY_baXSW_C_baXz1_baXViU^k@XgVf^VX7TqWhSGUiXwwalt3xs3^Tl45SH5Tv5SA5TQl?S9>c=S96S9V;S98tv8",
  "SUpBRy8yheQWe6ZPS9TrS9[dZ7D[dS9^ZZ7D^ZS9k3Z7Dk3S9h2Z7Dh2S9k4Z7Dk4S9W5Z7DW5S9_kZ7D_kSUpBD_kS9Q0",
  "Z7T:yhR4u9[ec=ywb?6wSReW2SUpBVK8yhRz4U:6Yv[e:5R74Z7R745R76Z7R765R7V;Z7R7V;Z5Z7UP5R7W2Z7R7W25R7:",
  "Z7R7:5R7TrZ7R7TrGeGQlStR7Tr5QfRe]gRel7ReWZbZynRx>c=Rx6RxV;yoRxW2SUpBLW2]ARxTrRx[dZ7L[dRx^ZZ7L^Z",
  "Rxk3Z7Lk3Rxh2Z7Lh2Rxk4Z7Lk4RxW5Z7LW5Rx_kZ7L_kGeGQlxe_k5R1RxVE<WcQP_8QqmJSaL[4SsAR4SsCR4Ss_PN4",
  "N>c=N6NV;N8NW2SUlMcCW2]kNTrN[dZ7B[dN^ZZ7B^ZNk3Z7Bk3Nh2Z7Bh2Nk4Z7Bk4NW5Z7BW5N_kZ7B_kGeGzYRs_kNQ0",
  "<V^R5StUBwLi7c=wMRmV;u5RmW2SUpBU_8Z6RmTrRm[dZ7I[dRm^ZZ7I^ZRmk3Z7Ik3Rmh2Z7Ih2Rmk4Z7Ik4RmW5Z7IW5",
  "Rm_kZ7I_kGeGzYRf_k5QjZ7QjRmR4QuQPQlS3BUyQj<V^R5StQjwNG>c=ypGV;yqGW2SUpBVJ8YtGTrG[dZ7Q?[dGW5",
  "Z7Q?W5G_kZ7Q?_kGeGQlStQ?_kGQ0yhQ?ShGR45SMW6c=T36T3V;T38i48SUpBSC8ZAW6:T3[dZ7J[dT3^ZZ7J^ZT3k3",
  "Z7Jk3T3h2Z7Jh2T3k4Z7Jk4T3W5Z7JW5T3_kZ7J_k5RdZ7Rd5U5Q_RdwP<>c=yt<V;<8<W2SUlMTjW2Yu<Tr<[dsN[d<^Z",
  "sN^Z<k3sNk3<h2sNh2<k4sNk4<W5sNW5<_ksN_kGeGzYQS_k<Q0QuQPQlS3BQTav<VESPToQ=_AWwQ0Rm_AQBU=V7TjR1",
  "GeGzYQSLVERiMVERiDW5RiR7:RiLW5RiBW5<UdY?6Y?V;Y?8<t=_G<dIY?[dsNH[dY?^ZsNH^ZY?k3sNHk3Y?h2sNHh2Y?k4",
  "sNHk4Y?W5sNHW5Y?_ksNH_k<R4SU4SU>c=SU6SUV;qNSUW2SUpBPW2ZYSUTrSU[dZ7P[dSU^ZZ7P^ZSUk3Z7Pk3SUh2Z7Ph2",
  "SUk4Z7Pk4SUW5Z7PW5SU_kZ7P_kGeGQlStP_k5RkSPnEVsV7QcRkZ7Rk<V^R5Stn[S_4S_pBl3Z7SMcLc=S_6S_V;yse68",
  "Z7hdZXcL:Z7V[S__kZ7QA_kS_Q0Z7Te5U5Q_TeS84S8>c=S86S8V;S88S8W2mTS8TrS8_kZ7Q=_kS8Q0Um4GpBQP4Um6",
  "GpBQP6UmV;GpBQPV;Um8UmW2_2UmTrUm_kZ7QP_k5UBwU4wU6wU8b[ReUBRek5Ren[Reh3ReTLGR;>YPVPUdWe6WeV;We8",
  "3t=dd3dIj?GR;aHjzR4STR1W1>c=W16W1V;W18W1W2W1:W1Tr5UYReJUdReJ[DReJZ:ReJR=Z7l3Vi6Vi8deGXQc=]x6]xV;",
  "]x8]xW2]B]xTrGShqGSh<V^R5AQSUdRi[DRiZ:f?SRC]dSKV7QcQP4XN6XN8uI3UBT3[DT3HV;T3Z:T3t=T3R=T3dIT3R4",
  "UmpBQP4XN6XNV;XN83VG8uIXNTr3UBQuAQCTsbNRlQ0SPToQ=_AQa4WlX>p5Xa4Xa6Xa8kES=4S=6S=8f>Ss4Ss6Ss8fd",
  "<V^R5StUdWe6We8ddyhE_RUXZ:UXUdUXeQUX[DUXR=Vi7Vi8Vi4m^4Vi6deXa7Xa8Xa4XaU[Xa6kEWeQD7Weh2We[dWehu",
  "We^ZWeW5XN7XN8XN4XNU[XN6uISW@7SWWZSW]gSWT64SWl7z6Tu7Tu8nvTuU[Tu6i=h>UX7UX8UX4UXU[UX6mYSs_RSsZ:",
  "SsUdSseQSs[DnsSsL7SsL8SsL4SsLU[SsL6SsYhSsR1uFS=8S=4S=U[S=6f>w[SG8SG4jA4SG6h@uJV:8V:43q;V:6fbZB7",
  "<V^R5StQ>7yhQ>8ZB4ZBU[ZB6<V^R5StxhyhnHZBQ>7ZBQ>8ZB_eZBQ>U[ZBxhZBnHUa7Ua83SMu?4Ua6h?U:J7U:hdU:SM",
  "U:QL4U:vOU:V[Ua_RUaZ:UaUdUaeQUa[DUaR=SWJ_RSWJZ:SWJUdSWJeQSWJ[DSWJR=SWJ7SWhdSWSMSWQL4SWvOSWV[Vv7",
  "Vv8Vv4VvU[Vv6qYmg3tEY4kG7kG8kG4kGU[kG6U:d8Ri7Ri8Ri4RiU[Ri6lERi_RRiZ:RiUdRieQRi[Df?RiR4nw7nw8SWa8",
  "nwU[SW_VSWWPTf_RTfZ:TfUdTfeQuDmcSWiv7SWiv8SW@a8SWivU[SW@_VSW@WPNVxSoS8^=W1c=GXQ6qGE6qGEV;qGE8",
  "qGEW2qGTyqGETrSRC]dSKV7QcQPhuXN^ZXNk3XNh2XNk4XNW5XN_kSg]5UBSPToQ=_A@QVQ00Vm[5[0RtQcYiVqiUQ[Q0",
  "T3?rLS8i]V><>WqG_cVC>UBRZ>hcReQRQ?4NTpRdN=RcQfRm?TvS4QXQfGWHUZTb<a9AUES_?rLQuTsQj5QQV>5XF",
  "TJUZg:R4YZ]dg:R4TJW[g:R45gwVCtDQTV>5WiTvTJSqHiSS:JRdS9=Q[Q0[y=Z_QNUN2YMv>Z_QNUN",
  "pIQAR;igv>aQSQ=CHSQQcUESzQ05R<?QF;R<;7SUTe5RkSRQ0UmR<R5l];QPR<QoQPQXV>TJUB5iT?QFhDUtQo8QuBhD",
  "QuSLUjT3VWua^vUCMCam8<TYQrR7QWMCam8]9Ut45SAcLAQp;QzQYQhrKTeRx>R;:NSHRx>R;;R1S4Q05fJ",
  "S4=R0^APQ=XCShS4SZSRR;]6QVhvQ?QVQ0^5EQqQF;R4^5g4dsR4T3VWua^vUCMRQEQt;R4<TYQrR7QWMRQEQt;R4",
  "GuhRJQFTnPQY]X?QYV><TYQrR7QWM]X?QYV>T;^IMV>5R5l];AQoR5Qo6[STkQNUyX4S4T]T3VWua^vUCMX3Y2",
  "<TYQrR7QWMX3:YZh0QF;=CR4S9QNQPSka4QXXET:5QMETh;=TpHRK<QbASCav<QWRDXtVWua^vUC_8Tpav",
  "<TYQrR7QW_8TpavNQ0SvQ0b?h0QF;Q]QAUM^L;Qf<TYQrR7QWM@^L;Qf5R6SPQNLQTQTz>QXBRlQ>]yQTRlQ0",
  "<TYQrR7QWuaQ>]yQTRlQ0T;^IMT:5^iMT:TJHh0QF;=T44RmQT]XQFRfUyQjT3VWua^vUCMIUZQA;Qj",
  "<TYQrR7QWMIUZQA;QjW6Z>l];gqXCduQA;RdT;^IMRd5Qvh0Y45U^RZTml];VHg4;R6UtQPQMUy=QPRD;8TJSZYZgw",
  "NQD=QXUBNQMUjN=QMUj<@TQT3VWua^vUCMgJ<TYQrR7QWMgJ5S1RDQT^SMgJ5UY5RKQwcxm<XhtfRIm<QgtYm<2QOQq[xUv",
  "2@QCUTUZR<Uv2bJePQXUvVqR1<R4qJS8^vLQoBeGYlWI1rL1[41RtQ0z7SLUjQ9RXf3QMVmz=ZUZV]AZl]BYvZWYtZPZiZ6",
  "ZYZXZAaaYuZyYQ6WfoyS9SqhpRyR6>Q;VquqYLj4QTR;CSk[6ZUZV]AZl]BYvZWYtZPZiZ6ZYZXZAaaYuZyYQ6Wf",
  "WWYVSqhpRyR6UsHTsADDQRTjcxm<aom<x3[sVxQY[6ZUZV]AZl]BYvZWYtZPZiZ6ZYZXZAaaYuZyYQ6Wfr:f3KQTQDSE[6ZU",
  "ZV]AZl]BYvZWYtZPZiZ6ZYTdZAaaYuTdYQ6Wfr:YaITDQiYh_1yoRxZ:]x8]k^lN8NZ:^O8ZWb[RZ8wU8qG8Yv_2wSUm8yq",
  "Zi_XS98S9Z:u5qNysT38Sz8_GYk8YuZyZAW1:2VgDYTayQCW0;Q@iQaBTraB6aBV;aB7jCR1jC7jC?V9ViRkViPRkUaRk",
  "UaPRkaB4aBc=aBCSkcbDQcTl9UPaBgdXL;QRHQNayiQz2wRTrWlaAf=V:RkWfabXj:_Z4fbW_4X_Rj4_KmZb]sBAZdVxQf",
  "^>cooeR1SU?Z>_[QlQR@7Rm??RBLSmCTQReWYR5XSSPQTVKUje6KX9ReCSxUSVxX9RxUSW[X9QuHQBV]<SqPrbQSzTTL",
  "SzRcA^_NCfJSPZ_SqS3X9RxHTQSPz]P_AQBTQNSqQ?[QYVAxe??R4w=LUMW2^]PPTbnoQ?ZoLRf?TQRxCQk?Zw",
  "QgR<QAglPlKWY[C[zaHUSQzrHQTTLQu@QPRtTQzM^NZ5ZNZkZj[V[g[T[fsfQws5QLVPSmbRQSSA_M?praDV;Y:=6Y:?SA",
  "aDQzQjaDd3MoepraDd3fmV;aDd3MiU6aDd3M[sSAhUIVWTpaRRlRcTy2t3RBOtrttQga2[yZ2dF2VKQpQST<QalvSH",
  "QwnETjq<R0TcQOPRf]yT]XhQTUC?z?S8^=YHRc[x7WsTBS5SOIVWTpaRSQQhQcTC;TlWsTBRSSOIVWTpaRSQQhQcTC;UP",
  "WsTBRqSOIVWTpaRSQQhQcTC;VLXLqcSOIQCOWsTBS0SOIVWTpaRSQQhQcTCws^z^NZ5ZNZkZj[V[g[T[fsfnh[SZU]9ZVUt4",
  "VC4qCYt5^8ZiZPW1:ZlZ6ZAYu_GYvZW^l]:ZYZXaamT]A_1wTi:^5:SvYLT3R=Sv[DN[DReCQpzAQCW0SoX_WlX>Wf_Z4Xj4",
  "3^8mai=aB:mYh@kImdmcsOSWWPfbkEfdUXTr3dIZBlwS=lwU:d8V@KQc4WlW_RkXj4Wf3^8fdmYddi=f?kImdsOz3UXTr3dI",
  "SWWPqYm]:mcVvR=RmQTUCXC6fddez3VvR=NRQFV8dFlY5QMfNx8]ISETl1yEWBSETlacSqQO71RoUZSq:1[_RoUZSq:",
  "Y:QM?V]1VQKQM?V]1:b_WA:Y@TylF:_6TZ_6]OacV]Y@VI1TZ1V]1[waDR=VfWPjLR=1d81_PReCQp;QMfNx8TZ9QFR=",
  "RmQTUCXCQMfNQMfNR=p>TyqZ:9Q>R=9@TZ9Q<r;9TZ9r;kMWPqZTL9QFR=9d85QMfNx8_b79TLRmQTUCXCQMfNzPRlR=",
  "5QMfNx8g0QMTyRmQTUCXCQMfNx8JR=kbBupRJQTQSk6S1QoprQuRka>RkSRbHtvRkS9bHS9QDpr[eRkRxbHRxQDbHRmbH",
  "gPRkGbHW6Rk<pr<bH<S:Rku7RkY?QDprSUprSUbHcLRkG^ZUtQ>nEh0SaQ?^ZGk3UtQ>nEh0SaQ?k3Gh2UtQ>nEh0SaQ?h2",
  "Gk4UtQ>nEh0SaQ?k4S_huS_^ZS_k3S_h2S_k4S_W5UtQ>nEh0SaT:gRh<mbh=edjDRiR4TJS3[nQVQ0Wk[nQVQ0",
  "S8QRQMUuaX3iqXwS_pBQA[dZ7SC8by:Um[dUmW5wU[dReVG8wUTrReJH[dReJt=<V^R5AhI[dRit=3t=yhEQD7U:QUQcEU[",
  "UXTrUXW5<V^R5StQ>tdyhQ>W5^]>RPcOQUQcRdeeyhQ<UqQMavsrJUTKXCQCW0MBurQeQ0VqYh_1ZlbA]B]k^l]:e9SUTQYv",
  "_2ZWb@YtZP_XZibWZ6ZYZXZAaa_GdbYuZyS4PTQReYLTdYQ:WlWfme_KmZb]X_X>w<_@QsQiTLdekEc;RaYhw]3^bkIf>i=",
  "h@deh?WWRfZ>XZQAfJRxSFXZQAfJ<Ye6c;i48eB2oXw7^z^NZ5ZNZkZj[V[g[T[f0REStRIQiYhgT:w]SWWPlEfbkIuIh?i=",
  "TuR=h@z3X?:ddaB:nsnwR=f>p5WlmeU;R4WfmZX>Xj4X_Rj][_KW3e=RSe=Rqe=S0e=S>e=S6BRXb6QD;REStkuQcQixbxv",
  "1nIxv1_aWp:9QE:p>Ty1TtWp:9QE:p>Ty1_aUMWP9WP9TL1TtUMWP9WP9TL1xbTZ9]O9VI1nITZ9]O9VI1_azC9DR=9Tz",
  "1TtzC9DR=9Tz1_aSQ:9ou9V[1TtSQ:9ou9V[1xbR=9V]9eH1nIR=9V]9eH1_aWpou9QEou1TtWpou9QEou1_aQS?:1TtQS?:",
  "c;X?W0VRQCW0QSTY@QUT]9Tr9V;979td949Y2989of9][9bH9>bH9?Rk9pr9CbH9tbRk9ARk3QiQ=]5V9p>Sh9V>9Qj9R1",
  "9R69U7SWTwIQOZ<S5_M]yXnsfU:xf1TluNuMuOwbwkwjwgwiXNSq;sweBRiRV;Qq4p<U2Q00YaIQNUFJYVZ_SqS3X9",
  "Rm?CSavNS9AStvN^]StvNSP?V6vNS9d3WpCT^S9d3MoeCSavNS9d3fmAStvNS9d3uacAvNS9d3M[sV6vNwDWpCT^",
  "wDMoeCSavNwDfmAStvNwDuacAvNwDM[sV6vNwDfmd3WpCT^Re?T6PS3X9Rm?CSapzS9AStpz^]StpzSP?V6pzS9d3;pz",
  "S9d3MoeCSapzS9d3fmAStpzS9d3uacApzS9d3M[sV6pzwD;pzwDMoeCSapzwDfmAStpzwDuacApzwDM[sV6pzwDfmd3;pz",
  "T[[xQRSLQcQiYhZl]B]xYhZPZiZ6Rm[wYvZWYtGYL]k]:^6^OB:ZYZXZAa@Yuf[ZyYQ6WfX_X>Rj4W3Y9l_W52biT<miYO",
  "0REStQPSqq[_aWp:WAR=WAQE:_oWp:WAQE:WAR=w]bzRs:lFR=_oRs:Vf:lFR=sPm]TZbz;Qz]Omd_o;Qz]OViQT:bz;TZ",
  "1]O_o;TZ1]Of>mabzzCaDR=^?:_ozC^?:aDR=h@_o;TLbz;TLdeVi][h?Ua][kEbzQSR=VfWPVf:uKUaV[p5_o;R=WlaAWf",
  "abmemZby4UXQhSmQS:NnLVRU5Q_YL9V[p<UMRr;Qq6k>uVxeRr;Qq6NnLRpSQ]5Q?Ty1TtzC1xbQzQPSEZ=TtzC1TzY::Vf:",
  "Tdk>QSUSY6sMVR:1[8AQSX91Tr_6Qt;Trb_1V;1][bD][^@bD7_q1C>Xl1pr_51Y21W21c=sRSq;c=1CSESnk>uVxe^8e=S5",
  "e=RSSsaQQUUMZ1Rq_6Z1S0_6Z1S>m];RQ^_SGshQS^_SsaQQUMkuQcrUTQW3Na3B[axrXyV0Xw[USEZF1TluNuMuOwbwkwj",
  "wgwisfUmSq;ZF1TluNuMuOwbwkwjwgwisfk>QVA^8XaARrh0iPRicSTQSs=Sf3S:Rk3QpL[86wYZJ^v:SG>StPSqhjSs>TQ",
  "Ss>QTLtdRiSmZdTQRiSmZdQTLtdWe^8Tf>^8pHzhSbc]uvXYbI2XqSLR5MaX2QRv?QnRkyVSl2bsXw2QEMQEXla<vGvQjm",
  "2^iRf]yXlao^iRf]yXl2]qBYmulS;cQU8QwRwVW_7ulS;cQU82^YSLkkSnao^YSLkkSn2^YSLkkU85hl2hgikXl",
  "_6WjVSQVXl_l^YbjWtZ0]w^YbjWtW8_l^Ybjlf;Z0]w^Ybjlf;W8Qw]NiVVTQoSnYHtgVRSn2[_TS]2T4Sn2dUVRSn",
  "aodUVRSn1U82bsujbI2rWrQSh9Te9QfQ4diKQMQRSL=VRSdXCpxbfTfSxYLNXPhZ<R<^8SPR5_PVqUSQO:SWVS]^YZrU:",
  "SWVS]^VCrU:SWVS]^cL;Qh[w1^I]^W6;YWTy1^I]^TJrU:QubNQO:UtrU:SWVS]^]ASGcoQl^v:ZlUXQX:]B]kbyB:]:",
  "ZBQN:^6[e;QqQ]R1SGR<VHRfcoQl^v:RZ>RfR<v0^QQl^v:1[8HQl^v:GSEd3KX9Yv_4W5ZWSGUZ7YtZPqTTbZiSsSFK^8Z6",
  "ZYZXZAaa<jVTm:RiQl:z0Zy[zQAQNeMTQYQ^I]^3Sd7VfQO6RiZ>71TsZwm];Qh[w9^I]^by;YWTy9^I]^SWQMU^1Qh[w",
  "1^I]^1QhDSE^I]^Tuj^T^1^I]^owRzE;>RzShVqZdQ=QSS3iPRxS:WwS3iPReQFRcQSS3iPTJQ=QSS3iPSzTjS3iP",
  "SvfxS3iPQuQBPY3QSS3iP5uqQ>Q?TLeB^z^NZ5ZNZkZj[V[g[T[fY9QTl7Y9SqUZ:a<QR_xQgz]VPDSq[oZdR4V@L6",
  "S9QOQNSHY9SqQUfJXh?q0QMUFJcOimU:fJU:]^U:^8VfR<^8U:U^U:>fJ3Rz]^U:>U^U:Rr^AVS4Tfa3T6WHR41QURzT:",
  "WAp]y?WASFT761XpEVmTQWAp]SdFXpEVmTQWASFT7fMXpEVmTQY:QUVzYUim3dXpe_DQ<tc9VHShlFbnY7R19RER1",
  "3^;pe_DD^89D]^lFbnDQqR19T7y>1_DDU^Y9pUXteo^8Y9SqUZSEb3@^8diQBTczS=VRDQTT@cqR1S9RrQqPSZS9RrbvYInh",
  "ZUZVQu4]9[STJ7]AW1:Zl]B]k]:i:^6YvZWYtZPmTa@ZiZ6ZYZXZAaaYuYb:Zys>VRDSqQvLTbTuzVUSYLTuzVbN7",
  "YQDRrHSd7TuzVZ>7TuQTZoQqfJTuQTTpimTun2DT^TuQTUkQL]^WWYVSq>ZoR4sLs>VRDS3RrQTzB1W5VqLR=<TL^z^NZ5ZN",
  "ZkZj[V[g[T[f2aHoFVqQh7w=7bWj:R1h=T[ugVP[6qLx;hDZyqLx;;R=RmSx>TsR^R=ZiRxQOCRl:ZPqLx;zCYt",
  "RmSx>TsR^VIaaqLx;QV:S9USDUSQV:ZlqLx;;Ty]:ZWZXqLx;;YLZ6qLx;zB<WcQPQNQ?;TZGQXQPQNQ?;TZYuqLx;QS:",
  "RmSx>TsnG:ZYqLx;;TL]BZAqLx;;V[^6]kGV]RmeHZUZVWWUMR:6YQ4TuUSDUSwmmeWlSsQOSk6X>SsQOSk8Wf",
  "1R2QSUTx;QS:s>RpTnShj?Y9RrCQqQfY9QTVWQQTQQ:Q;QwXGRlQRQ<?TnSEROT6R1TuQRQOKQX>OZBhpy?TuRrCQqQf",
  "0QLDBRQq[YhRxV[_1ZlS4V[]B]k^l]:^6Yv_2ZWYtZPS9V[_XmTS8V[ZiSPV[Z6RmV[wTj>R=RZd8ZYZXZAZySTV[a@Yu_G",
  "aaf[w<_@QsQiTLded_WlX>mZWfabX_s>VRR1h=_Yedh>kBgRS=PQRMQ<8Ss^8[zQATQGhqeBmP;REMR8Rd",
  "GT@QaQPPCQk;REMR8RdNQNMW5j>piRsQNMW5z0^z^NZ5ZNZkZj[V[g[T[feBVq@TZb[a_0TpRsVxLStZFi;[W^^_paud@d?",
  "d=d>w>V[RjQfRjSh3^83Tbby:RjiPRj>X4Rj^_RjaIUa6W_OW_R43QRRk3hcUa7XjUjXjR63R;V>XjRk3SMU;T:U;Q<R63SH",
  "3QNTeUa8_Z@Qf_ZU7_ZV9_ZR4Rm?UMY7Q<VHShS4>coQqSE@Y7Q<VHlZRm[FXQcoQqSE@Y7Q<VHlZ^>Qq:S9RQ]yTrQuRQR6",
  "S9hsRf[Q>YIk@I[Q>YITN^LTscyUuQiR8TcQsRYUaVWMQLEEQsVzS=]R8XaScQcWhSWQtUM43y8QLEEQs]gSWQt;HR_So",
  "nxX93R;KYWQ<Qsy>Q9RXWHrnaRRfREQCQASdAwpTQY:TQYUTQacSA1SH1QCTvjLSH_6TQ1TvWATQp<O_MTQY@SZ1SAaDSZ",
  "jLpf1Qz4VfTQ_6SZ1W=1XZSZWApfYUHTQ1Q@SZVfHTv1UCTvlFTQ1Q>WqlFWq1UCSZ1QETQ1Q>HTQ1RQ41Ud1Vx41[d1pf",
  "1S:4^?6nxV>1RDWi6_6Y8ETQ1siW3z7SH1HR_Sop<xAx5SXTczSQcDhsRlQRQ<?QSR<TLTuRrJimTuWjSq:TfUSYL",
  "u??QSSmRr:SsjVSmRr:U:jVSmRr:S[jVSmRr:qymJ^SkOrUZuQT:<Vc:S9QAQULR=sBAHZuQCS3:",
  "SU>Q>R<mJ^SRfSca1TjSDm32bP[qQ>R<mJ^S;TmU4]>RuVgDYTUqQSSDm33VgDYTUqQSSDm3SsZ_USSEVgDYTUqQSSDm3",
  "N^RXlSU>Q>R<mJ^SWpZ_USSEVgDYTUqQSSDQnjVUCR8VST]5esQSSDm3Re]7QLQSSDm3RxZ_USSEQThpSmTZ5eL5eZU8",
  "f]X@U8S_QWmJ^SWp_^IRcStVgDYTUqQSSDm3QuQPQO]>mJ^S;VgDYTUqQSSDm3[zyEWBjVSDm3XjQ<SmTZyeyEWBSEhpSmTZ",
  "SzR5WBSEQThpSmTZyeyEWBSEQThpSmTZSzR5WBSEhpSmREx13QThpSmREx15]ISEeoWBQkZ>R=S[coRcEQkZ>R=",
  "X?SqTmQkZ>R=sSZ4b?[aiPa=Xe_yzA^bT3Zf^bS_QPRrzA^b5]ISERoRQPSmCRfZ>R=5R_RQQCcF5ZJR_RQQCcF2bPB^Rmh",
  "[zQ>AHQCSqSdpkw?UZpgQTpkQuX]^w2bPtWd9tW[zTS]ISEeoWBQkZ>R=kbZS[idO:1Y2RagFY2k8Voa7U7i?hA]0UB_5",
  "RagFxob_k8X4hBaCXmgV1YMV>_q1_D8a^ARzQDV^Qo81_D81CXmb^exk8pqsE_C_b83iY_b8k8T:1YMTe_6Y8TegW^@",
  "a^ARzQDV^Qo71XqUgQFQs7_6Y8Qjk8V9gXiC]0yHSzCS1QsJQOhvWHQM[0RckeQuTv0V3v4dOEbc1tKaD6bCZ:aD_V",
  "TN^LrNV0dO[C_Wn9[3:Rj4lBS[QOa7U7k?X_wY4kAj?Wlj@h<_Yh=edwYV>X>_Z7h>kBgRWfjE]a:b^:3hWb^Y2lBk?X_",
  "RiUCW53xob^xokAb^6h<h=3fJX>3_D8SW_C_b83iY_b8h>gRWfYcRzQDV^Qo7b^QjkDRjTvS[^0UXQhv4EbcU:n:",
  "UXQhv4XZ6uD0]MQSRoWr]7@UuQi6ee^@iA0n@QSRoWr]7@UuQiK^0YUbcbCZ:1XZ61UC60rW][S[sYU:sYSgsYSGsYS=sY",
  "TusYVisY9[uHakR[YrZLRisYSWsYVvsYb^Sh_Wn9B^LrNV0SH0rWrQShXN^mTEktomR4NRHQiAXmw>A[lXmTuXmNRHQi?Xm",
  "w>e1QQXmS[jPU:jPSgjPUXjPSsjPUajPSGjPS=jPTujPVijPRijP3SLUndSX?jPgTjPVvjPRjsX3x:sXU:FakR[Z4U;sX",
  "3_DXOalwY_DXOalRiUCQD_9alW_sX3_D[kal3SLUnalXjsXU;QFUnal_Wg2aVgFhWmb1[plJRdU;UBwYxolC3S<r]Q>Xm",
  "RiiZShb^R4W_XmuETZuC69[pULZBU<[br@Z4UasX9dSuCRdSG^Bb^IFbmodS=x0UG9aluCV>S[QOa78Tu[DRi^B3aNSWjP",
  "Xj]13q9uC7X?^Bb^V9mgsSal9^ERdU;yHXN^0TNa3g3x]QuBUeQcbIQwQ?USQcU8QwSYxqRBQQUNXhYJQQMXg2U4QCU=]r",
  "XhYJQQM[L2Rt?T6M]r2U4QCU=Rt?T6M[L2Rt?T6MU4QCU=Xg2rWQAXl2XHQCU=]rXhYJQQM_vaouvXYSn2ptv4Sn",
  "2QFQWQFTmXl2AQoU82R<mh2V1Sn2rWoYYNQUQs_DSESn1Y2z78z7V9lFRsctaU1rQR6]0UBjH5dOSh]aQiR1c05dORd9Qj",
  "]aQiV>5dOV>9Te]aQiQA;R8@Tc:feaCVWaviC1hWi>Y:^0VfUCW5jGaCFTSYrZL1[k]qBYmulS;ULhC1aN1[P]qBYmulS;UL",
  "gX1_9[B1[k[B1[P[B2W9q4mh2ZdQCPLSEWtW83Z02TgWtZ0a<ScQc[_xBScEQcU82Tglf;Z02RzQL[cao[_oOU82oIxQXl",
  "_lpXSn]wpXR[^TpXU80jjQi_9ZhU8ozZhU8yW[Yy^[YyW^Py^^PyWo5y^o5l<ejeTY;Xgi1ejeTY;Xgne[Yi2[Yne^Pi2^P",
  "neo5i2o5nehKi2hKneu]i2u]yX[9V6R[[Ly_[9V6R[[LyX[9V6lay_[9V6lanfu]p0u]yXa;U8y_a;U8nfejeTY;_v",
  "p0ejeTY;_vRhQ=[YRaQ=[YhzF]ri3F]rRhUncsRaUncsRhUneLRaUneLRhUn[BRaUn[BRhHhKRaHhKRhUnoOU8RaUnoOU8",
  "yYa;U8yaa;U8yYlolayalolagNfkf8fkgN^Pf8^PgNo5f8o5q?^Pni^Pq?Vast]rniVast]rq?o5nio5q?u]niu]RhIfk",
  "RaIfkRhI[YRaI[YRhI^PRaI^Pts[YsD[Yts^PsD^Ptso5sDo5tsu]sDu]h7a;lah9a;lah7a;R[[Bh9a;R[[Bh7[9V6R[[L",
  "h9[9V6R[[Lh7[9V6lah9[9V6layZfkybfkyZ[Yyb[Ys@[Yq@[Ys@^Pq@^Ps@Vast]rq@Vast]rs@o5q@o5e4[Ya^[Ye4^P",
  "a^^Pe4FujR[csa^FujR[cse4U<QOV6R[csa^U<QOV6R[cse4Vastcsa^Vastcsw8[YsE[Yw8^PsE^Pw8o5sEo5w8u]sEu]",
  "fZloU8f9loU8fZa;U8f9a;U8Rh?u]Ra?u]fZa;laf9a;lafZ[9V6R[[Bf9[9V6R[[BRhQCFZLRaQCFZLRhQC^PRaQC^P",
  "R]ikmjRUikmjR]ikfkRUikfkR]ikwzRUikwzR]ik[YRUik[YR]ik^PRUik^PRhQE[YRaQE[YRhQEwzRaQEwzng[Yp1[Yw9o7",
  "qAo7w9^PqA^Pw9o5qAo53UnjmSWwzXaFtWV:FtWRjFSr_baXUaVWQS[YQGxLQG_aULe4VcDavi2n:s?^PsC^Pq>evozev",
  "s?cmXgsCcmXgs?cm[LsCcm[Ls?cmevsCcmevs?cmZLsCcmZLs?cmeLsCcmeLq>oOlaozoOlaq>oOR[[LozoOR[[Lq>oOR[ev",
  "ozoOR[evq>oOR[ZLozoOR[ZLq>oOR[eLozoOR[eLnf^Pp0^PyXevy_evyXZLy_ZLnfcmXgp0cmXgnfcm[Lp0cm[Lnfcmev",
  "p0cmevnfcmZLp0cmZLnfcmeLp0cmeLyYevyaevRhA^PRaA^PRhC^PRaC^Ph7evh9evRhCcmXgRaCcmXgRhCcm[LRaCcm[L",
  "RhCcmevRaCcmevRhCcmZLRaCcmZLRhCcmeLRaCcmeLh7ieXgh9ieXgh7ie[Lh9ie[Lh7ieevh9ieevh7ieZLh9ieZLh7ieeL",
  "h9ieeLRh?^PRa?^PfZevf9evfZieXgf9ieXgfZie[Lf9ie[LfZieevf9ieevfZieZLf9ieZLfZieeLf9ieeLngmjp1mjng^P",
  "p1^PngFevp1FevngFZLp1FZLRhr_VsQDRDQBT4JRdRar_VsQDRDQBT4JRdRhr_VsQDRDQBT4V9Rar_VsQDRDQBT4V9",
  "ngFSCUOp1FSCUO0n@UuQix:FnOsUuSuQuRuP];dT[>dTRhx:FnOsUuSuQuRuP];dT[>dTp0WDWynOsUuSuQuRuP",
  "W3nfWDWynOsUuSuQuRuPW3Rah[FnOsUuSuQuRuP];dT[>dTRhh[FnOsUuSuQuRuP];dT[>dTRaA[lFnOsUuSuQuRuP];dT",
  "[>dTRhA[lFnOsUuSuQuRuP];dT[>dTRam9WynOsUuSuQuRuPW3Rhm9WynOsUuSuQuRuPW3RavpnOsUuSuQuRuP];dT[>dT",
  "TdRhvpXv:TdQGR[^4TdQH^3TdQHdTRaxnnOsUuSuQuRuP];dT[>dTRhxnnOsUuSuQuRuP];dT[>dTRax:F^4sTU;WDWy^4sT",
  "U;REF^4sTwZF^4sT3m9Wy^4sT3vp^4sT3xn^4sTW33x:FZta][>a]];SVl^[>SVl^];ZTl^[>ZTl^];v_a][>v_a]",
  "Rhx:FZteX[>eX];SVui[>SVui];ZTui[>ZTui];v_eX[>v_eXRah[FZta][>a]];SVl^[>SVl^];ZTl^[>ZTl^];v_a]",
  "[>v_a]Rhh[FZteX[>eX];SVui[>SVui];ZTui[>ZTui];v_eX[>v_eXRaxnZta][>a]];SVl^[>SVl^];ZTl^[>ZTl^",
  "];v_a][>v_a]RhxnZteX[>eX];SVui[>SVui];ZTui[>ZTui];v_eX[>v_eXRax:FQCnQRk9]r9SVl^9a]9ZTl^Td9dT",
  "QGR[a]Rhx:FQCnQRk9]r9^4sT9eXapQXQQrLY9UzYo2nO2dT2svWOdTRah[FSVl^9a]9ZTl^Td9dTQGR[a]nfWDWy^4sT",
  "U;REF^4sT9eX2Zt^43^3TuQN^WW]RaA[lFQCnQRk9]r9svWO^4QH^3W39dT9svWOdTRhA[lFQCnQRk9]r9^4sTTd2XvWO^4",
  "3^3TuQN^WW]RavpQCnQRk9]r9svWO^4QH^3ViS:FnOsU3vpdT9svWOdTRhvpQCnQRk9]r9^4sTViS:FXv:2svWO^43^32^4",
  "W3RaxnSVl^9a]9ZTl^Td9dTQGR[a]Rhm9Wy^4sT3xn^4sT9eX2^32Xv:diUlRTYI0SF;RTYI0QUo20SFo20y8VdMSFo2",
  "WsTKMVdMSFo20RBQEMVdMSFo2WsQW?Qho2Ushso2w1QRo20RQRco20WzCQVScQPo2SOQFQDQBT:0WzCQVScQPTnQQM_@T]",
  "SOQFQDQ?X40WzCQVScXE_@T]SOQFQDX40^;VKMSrYiSOJQAQjs=VKMSpYiSOQAJQj0lvSHWKQQMXHUSR^lvSHWsQWb<xH",
  "0UlxH0SFcOZE0]VWGfXVtc[2xje3Wwcxl2^[Wwcxl2SXcxTtMQ:;l22_aMirr@Q:;l2ZMTSl2]PTSl2fXTtMQ:;l2",
  "2_aMirr@Q:;l2^MTmET]fXg0ET]T[vo0U3hrRlvo0TwTgQLUZT]0V8TgQLUZT]0]Vt3RBO0lvQUS;;U1Qf0a1=qcmMTmX[qc",
  "0^;VKMSrSFKVSQ<U^SOJl3s=VKMSpSFKVSQ<U^SOQASMUsQ<UESOD_CpYRGQ__ySm@U^0^;VKMSrU@QAeSSOJm=",
  "s=VKMSpU@QAeSSOQAhdWKRRTnX<XHUSo2SOQ?Q?KQBT:UsQNRftDSo2@UlV_SxSoUspy4fXDpy40bsDpy4ovDpy4aoDpy4",
  "2bsDpy4TNQOT^SXcxm6]ol22mA]ol20QhQ=QNglQcYifXoX0aSR8K^80U@c[0cey9TNjd;y9TNQOYlQRb9aZU1Qf0]zQj",
  "0lvQURlvoWsdyRGQShfe3rvn=RTTsRd^[rvn=RTTsRdfXhn0d1aZoX0g9S;;hn0Q]nPaRVRT^ovDTsBQAQbSo]vVUKvo",
  "toKvo0nI_<0irg5xPTNSCbpV?0V8]zLQoQMRVQsT_QtRkTNQkIQNBAQ_hhyCSXQD[ocOZE0[_cey9Ws[Njs^D0VQTgm<",
  "0xwRIDpy4WsZ2Tgm<0fKTgm<0V8Tgm<WsZ2TgYi0g3BcI0RwS1a2s<oZdF0YsRfZ_SF>SeQMo2SOIIQBT:UfX4",
  "SOQDQXQY_@T]Ws[<aZQltV^dgLyEnERIUhOQw=hm2xsdi^;VKMSrTP]gSOJQA6s=VKMSpTP]gSOQAvOWsRcQBWwRwZfTP]g",
  "SOQ=_VUsxJSOD_CpYRGQ_TP]ggLVxKQnQST0RORwvEQDsmU^0RtQ]QCzcT0RORwvEQDsmU^gLVxKVkc@V0_yhIQlU^",
  "0RtQ]QCx?c@V0_yhIQlU^WKS;Q_VNQnhIQlWhWKQk]5VNQnhIQlWhSXthX^2rW6W3[yVF2iaQwcEQwW42=UWYHUJ2dUSo",
  "XhQRVn2n<_lc_]wc_2rWV>SXRookX^2Tl2UP2VL[yVF2iaQwcEQwW42=UWYHUJ2dUSoXhQRVn2n<_lc_]wc_",
  "di]MQSRoWr]7@Uu[6_5_qiBVfUCW5gUhBc0gVi@hCfegWpIUkR8M^EQAglPSoTNTpQQSoTNrqQF=AR8SoWsQAQUUCSQ^vBSo",
  "0XUQzSoXJrNSoWKshQzSoUsSLh[So0m>=szUfQQSogMQDQSQyQ@RDSo^MVWSo0UkR8Soh6ADSo0Y7EWYLSo^MnQ[8So",
  "anzxUyxqQ?PSoUsSLCSoan?QOQTASo0>SYRwx5j4[aQCQ?jeSoTNctSo0XUQCQAQc@TKVJR5SoSXDSLIASCSo[GQUWHSo",
  "gLRJUym>=sz[GR<LksXUQzSohy^SRf]ySoXJQTSmSo0QARoQLSo0Jz]SoT[QnBCQRSoSXQkSoQ2SOzhSp[^V6Sn]w[^V6Sn",
  "2bmVt]LhlQw^VVt]Lhl2pVspQgeVsp_lsp]wsp2ZhhlQgeVZhhl2pVZhhl2l6[yZ2^f2glfQR^_w<Ti45erNSiRIiWQBhf",
  "_lSrsp2glfQnGV7SHRxcBBXSw?QDz[VX[O2y1gCV1hlaoX7cQhl2zT?QnPUv2bsceXwa<ScQcxBScEQcSn2VU]Rhl",
  "2bmesQSgCV1hlto^qsy2VU^qsy_lRRXl]wRRXl2]zVPSnQ2SO^atSQajq0UZQ<XdVeY0QPTjRoQ>XPQf0xM[HUj",
  "0[[cCRDRBVnTNYmQca1t2TNQOQcjqTNUZSER;:0UkQLQARs^2@kew3m>SM0[[QcQ=coQAQUQyZcw3]7@UuShR]R4",
  "WFMQi[3R40xM[HR40[;RbRs^2@ke5YEV8nMSXiZ[36WFMQi[36SXiZ[3RdRURd0JRl_NUv0xM[HV>WKotCSo",
  "SXrdZ3QXxKeJPW8SXiZ[3T:SOQD=A[]a9amt3SeSQ[<YO0xM[HT:5UYSXiZ[3TeWFMQi[3Te0xM[HTeUsQhWr]7aZbR4",
  "0XdD^24SXQNQCS1QcYi0vjQQsz[GQz[AI]ySo0RPq0SM0xM[HY40C[<sz0CpgSo0[_CpgSoWFMQi[3Y4ySn@UuQidKTZ",
  "h6RDQCQRSo0RrojQkSoSXiZ[3U7WFMQi[3Uj0SLrySmVSUvw3]7@Uu4R]4S8Q0yS[3UESXiZ[3QjRU80WmUvT[VTUv",
  "anUTRDUv0VHQdUvgL_yS;QSTK__0ZJ[3UYgKRBIAQLSo0xMUunMS4bcR]EbcS96YHMQOPQSS7I^d[GWjg5gi[HSh_Y",
  "0irg5gi[HRd[GWjg5gi[HRk0xM;QnQMS1[HR6]aR6X_Wlj@UsR8Vda:c[ySSqm:UwUsQNSo0USQ]SLRDQBZdU7[GWjVSUuUE",
  "SXs5R2QSSqQOQnQTQSTK__s;SdEQOSQnRQQ=SSQCQUUBS=QRUBSWQUUBXNRcR6k:bqgkdav@UB5ixSQWijvf]v@jv",
  "ykSQWijv5QQTjg=UBS8A_jg=jvda]pUBf]bhOnmbhOwQbhOWsdyRGTnotzdTl0]Yx<otQ_TlZ5ZNZkZj[V[g[T[fp4TJgrSH",
  "5f5RYS8jhu6nmXBdaW<tn]Yx<otQ_Tl[W^^_paud@d?d=d>sQU;grSH3f5RYSgjhuGfcXBatW<0]Yx<otQ_TwV_R[B;R6",
  "nmW<ReUlW<yeTwXB0rWYMUj0]Yx<otfxAUKZSQcRAS8Wia:i]vQRA3W<daeRW<s;SdEQOSQnRWzSkbqgkySXDUPZNuer[",
  "]jSlXWSl]?SlZMSrSls:^TSlhyd]Sl2]TSlw4Sla<_=SlY1RRXmXWRRXme3s1kPTASl^[s1kPTASlY1V8WvSl]jV8WvSl",
  "XWV8WvSl]?V8WvSlyNZ4w2Z4Y1us]jusXWus]?uss:^TW?ut4yNUGw2UGyNSCUOw2SCUOZMRM@kPTASl5RRXm",
  "]?QFQWQFTm;Sl]jW?vlRCoq1RMoq]?W?vlRCoq1RMoqXWRRU<WMTDsy]?RRU<WMTDRCoq0pViuQSjaSirZTNeViuQSjaSirZ",
  "hyd]RRUMSkvP]1Y1ldRlX3YEUVsq0pV^ic1rZTNeV^ic1rZY1^qRLj01sy]j^qRMoq1RCoqXW^qRLj01sy]?^qRMoq1RCoq",
  "XW]RYEr[]j]RVUVjXXSlY1]RYE^xY9sha7pW]jdRAa7pWXWdRAa7pW]?dRAa7pWY1[^V6YEUV[^SAXW[^V6YEVU[^SA",
  "Y1TSRRXmZMSrTSRRXmXWTSRRXmY1sx]jsxXWsx]?sxZMSrsxs:^Tsxhyd]sx2]Tsxw4sxa<_=sxY1bsSlXWbsSl",
  "e3s1QSRTvGrZ^[s1QSRTvGrZ]jW?esUL]?W?esULY1xGoU]jxGoUXWxGoU]?xGoUY1sqXWsqe3s1ehXKQDeFeh^[s1eh",
  "0TXQDeFehXKQDeFX0us3V6a4Rz_hTbny]VWGQGq:d9Sl1V6a4Rz_hTb^[s1X0n6QVc?hyd]ldz@w4ldz@s:TXeh]Pz__w",
  "]?]RVUVjcfSl0VQUVpWyNcgw2cgZMSrW?cgyNzow2zoZMSrW?zoY1^iMWvSlXW^iMWvSlZMSr^iMWvSl0fLc?TNR:QLIUr",
  "mMQ]Q_RJi_QNzvw1QNQcVbR5bQ2QpzyVbR5Qf0p]cbSSQfgLV7IUrWKW[V[e2QLIayjqw0Uyt0Iayjqtnt0Iayjq",
  "yMolQo>QoROIKT]k7zycrRE[i>QoROIKT]tncrolQo>QoROIKT]0h]b8jqWKMQOSab8r=QgRgR8r=QwS7I^dXJQRyC",
  "XJQR?SKQXMdUSo0Tgxs0fGR5t>QShfSXYlhhVn0]zVPaW0ZhaWT[SdQLQaaWq=R8Y6TNRoQcR8Y6WsTKXER8Y6",
  "UsnSQXRGQ_WZgLv?QnRk]Pn50n5tlS3?a7n5SXXZQNdrn50RJYPkjk7zyfGeSmMsjJUM8w0VhsjJUM80kwUw2gw0m1YOyJ_c",
  "gLl5TbfXvJ0bsvJTNU6Z2vJSXR<VVQcvJs;TpS7QcvJTNeVvJQgU6Z2vJ0kfcGcCU6Z2vJw1QN=R24T[XP>SY4s9Q]8",
  "UsnSQXYO0TghhVn0VbBrD0WH^FRwV0b8DQXYOj4QkCQP=SeQ00a;aWovZL0[_QqQFPavSXQR=kPRYUfQh>XEb8r=w0ZL",
  "XJQRV1ZL0S3T0xrSezQY_w0S3T0xrSezQY_0x=QEm0xOY_2[sQa^<RtY7zQY_gMQ[TDx=QEm0xOQ?Z=RtY7zQY_0umw0um",
  "0oIWnfR0bsZL0Qt;Y_0rC0WH^FRwS1zQrC0RJi_QNglQciUiwSH0x=RtQyQonTJUTZc0WH^FRwS1zQY_",
  "0x=QEm0xOWnY0Z=nTUTqzjq0UTqzVjZ=x=QEm0xOY_TNTpV6azO0azQoBa20Zh[iY_2Y_TNQXXdDQQQ<QoWZ0SLrySmWh",
  "0^1RrhrUM8SX@X3azO^MRDRE;Y_0xQRlSaRzQ=TxYOtlS3?a7KRk0d1RGQsY_0tR0ScQUSeQ_WZw0ScQUSeQ_WZ",
  "SXRwS1@vQrCmLfRl:fRmLYEY_l:YEY_f7QTRljztRe]QTRljztRXJ[QT4jl2t9yKiwSHw0rC2jl2t9gMQ[TDZsx<fR",
  "2]Jx<fRmLZ=rCl:Z=rCgMQ[TDZsx<Z=rC2]Jx<Z=rCmLZ=t9l:Z=jlgMQ[TDZsx<Z=t92]Jx<Z=jlyPkjyROyPzmfRyRQofR",
  "yPzmZ=rCyRQoZ=rCk7zyDZ3VS4<q7XTyQjqw5jqw0jVs2jq<q8jqyQVjfRw5VjfRgMQ[TDjVs2T<TnfR<q8T<TnfRyQT<FtR",
  "w5T<FtRXJbuQBT^XhyB^d2R;_cq=UTqzjq2QXQW]5jq2UTqzVjfR2QXQW]5VjfRQgXSQgV?hxxsXhQRVn2UhO2fGR5t>QShf",
  "2TgaW2ZhaW2]zVPaW2azObUZESXroxsXhQRVn2UhO2TgaW]Pl4ZMl40^Tl4s:l40S3b9YO_WQ<RDO0Rw][0R2BWh",
  "0bstjSrvhQBnVfXtjTSSrvhQBnVk7zyb8RYw0Rw][k7zyR2__gMXQRuTStjTSSrvhQBnVyPzmTcTDQhrVyRQoTcTDQhrV",
  "hyIfxRoxZW9jqyMolQo>QoguIfxRoxZV?hyIfxRoxZW9VjfRyMolQo>QoguIfxRoxZW9fR0QXQW]5jq0UTqzjqXJbuIXS",
  "j4zxAQ]r2QQQ>[xx?[8TERK0aSBQMSm40QEgwWKUwWKgw]PRrrXQOUj2[OWKMQOSakwUw5gw2m1YO2R;_c0[tQYaW0TgaW",
  "SX@X3aW0fGR5AV6UhOT[Qby9ZMguIQ_VVSIQSSFApYQab8r=]PguIQ_VVSIQSSFApYQab8r=e3WwSFApYQab8r=",
  "^[WwSFApYQab8r=ova;azOTNR<vQkwgw5Uw0esQSb;T^QwgHT^2m1YO2R;_cUsQnUCR2R10WnR[VhsjJUM8f7QTf@e]QTf@",
  "0RPPRf[QT4jlsH[2TQmLWnY0Z=t9l:WnY0Z=jl0WnY0Z=jlUXQh[2TQTum?kjRiteOk7zyDZ3VSQcZ=rA<q7QsZ=rA",
  "0VJfSUTqzVjfR5QXQW]5VjfRq=UTqzVjQXegQaY_2QXQW]5VjQXegQaY_f7QTRljz^<rCe]QTRljz^<rCyPzm[sQa^<rC",
  "yRQo[sQa^<rCw0guIfxRoxZW9jqk7zycrRE[i>QoguIfxRoxZV?w0guIfxRoxZW9VjfRk7zycrRE[i>QoguIfxRoxZW9Z=rA",
  "s<t3RBOXJSc]L]Vt3RBOs:SrfHt3RBO0^TSrfHt3RBOe2QLIayT<Fbmlt3tjc>h]lttnt0IayT<Ftjc>h]lte2QLIayT<[Y",
  "jBWGtnt0IayT<Fv^e2QLIayT<FfUkCbMTqWhyMREfOFbmlt5tjc>h]lttncrREfOFtjc>h]ltyMREfOFv^tncrREfOFv^",
  "0QFTn[lRGRlTm;ROIK[]VxT:0X:ROQZSoe2T2RwV0Sls8SY4s:[K0^T[KUsR8Q>XPQ]RYUs[]DXPQ]RYUfaHSac[ZMcqTsU^",
  "]PcqTsU^ZMcWQ0]PcWQ00iYSrBR8T:_lBR8T:w6SrBR8T:_lBR8T:ovkxSoq=vS40QOUjSXg4IUrSXXPSIQ00vjTwZ3QXxI",
  "j5RBaZhaYRs;RWQDVHRE_OUstIQcVjaSxRSoySkxSoUfSmaLs8R<E[jOw6SpjZT]]wjZT]0iYSpjZT]]wjZT]w6_bvJ",
  "0iY_bvJWsxzQ0SXIASMs:pXiUiwUlV8]VVoO0RgRGWp=Rk0QNS3v5nTW80UK[iSEZ3@]olgh6cBzf0m6oKs=VXoK",
  "0QNS3v5nTZ0T[QUQFQUQcaXTNPa1Q<pxQnRk0Qt;QOCTcMb8UUSMSXT0RORwRk0VK@Q_QAR;tT0v1QURBV6QXQWTv",
  "yMdr@QlT]SXJRg4TNtSQZKQX4TNtSQZQBQRR10QlJSQ[<RGQMlK^riU^_RiRTksRTYIjCfFrA1fGeS1er1Q>Y61_w",
  "TfZ;QSnV1Q>Y6RiQqZu]1S[jWQBQqZu]13dWQShfY:jWQBhf1jl1t93VUQCQT43UVQCQT4jCfFr[1^xTfSiRIiWQBhf",
  "3^Tq4;fUU:RDREQSnVjCfFTXRsQOT^acn:3^Tq4;Q>Y63cfQCQT4jCfFcfSl3W9q4;v^U:RDQSnVjCfFRLRsQOT^ac[C",
  "3W9q4;Q>Y63XXQCQT4jCfFXXSljCC@QcfUU:RDRE;fU3[tQYfUZBCQafUTfSiRIfU3RLzDQcQ>Y6jCC@QcRTYITfZ;]E",
  "jCfFBa23W9q4;[BU:RD;[BuHX3[BZBCQa[BTfSiRI[B3TXzDTjnV3RCWwS:TjnV3a;[BUXQh[2Uy[BTfQk[8]1U:RD;ZL",
  "VvTsVzRiQ]RIZLRijaTpV6fUjCfF^<rA1d1YO3TXRsQOYlZL3RLRsQOYlZLuETZViZ:3ez3x:;fUU;WDV6fUwZ;fU",
  "3^FESEfU3hWw0Y^RbUN]PRrrXXXQFQWQFTm;SlSXS:SdzlQs_DlgT[RDJUvs<a1XOYrXwgLb9RGUvTNU6QR?CV1cea1t2",
  "^MR5BU6QR?CV1cea1t20p]rHR5UvTNR:CRBRGUvncj_=U<YmQcVtc[0QUQZUv0^C>jwLcBUv0_?IUvhx]VVoFkxaL2brdk",
  "T[TWQUo0FguQPQD_=SlyJQpUvXJQQeyREKQLUv0b1QBQZSLR5Uv0^iMVw?QnMreDjzt:cbDt22JMcbDt2",
  "UsS3RBQCU=DZ?MTXMreDUeUvUsS3RBQCU=DZ?MRLMreDUeUv0pYQa^EQAUqlKpcUPSXT<R7QOU=Q=[<RGUv",
  "0QlJSQ[<RGQMlKRTYIvyBUTQMSSVhX2WpcBUvUsQhYPCV1Dn4WKVbQaDn4UsinWwV7QUUvTNQLQOQSV7QUUvZM^YbjcJUG",
  "u0@QUq1f^TDUG]P^YbjcJUGu0@QUq1f^TDUGe3rvYld7z@U;QE@QUq1_oQNz@^[rvYld7z@U;QE@QUq1_oQNz@",
  "ZMliwoYlcJUGSGUi]s__3[NUGTNR<ZHwoYlXbQUq1]PliwoYlcJUGSGUi]s__3[NUGgLl5Q_XbQUq10]V]LXbQUq1",
  "j6SpZ=[NSrliwoVTmiYO]wZ=[NSpliwoVTmiYOSXS7IS;UMUO2R0@VKQj[GRgZnQcaJ0cUZnQcaJjBUMRgZnQcaJ",
  "s9^SQMlKR0@VKQjZMVtR0UKc[]PVtR0UKc[0bMQSBUya1zrT3QRU=RqT3QRU=SBT3QRU=S^^MdHojPUFJXtUoyF@_CW8",
  "9iYW81[piE3pZbMY<SM3nZbMY<SM3X7F[O3pZbMF[O3nZbMF[O3VtSxkPRY3pZbMQ^kPRY3nZbMQ^kPRY3pZid3nZid",
  "3yF@_CZ09iYZ0q=Q=CY60QhvhUve2Q>XP@Uvs<]LXbQUq1tlRwdr_v2bmU@QSTYQfQw^VU@Xtim2bmYEixQSTYbQ",
  "2ixQSTY@QoU@XtimZBCQRXT2RwR5SF42T6a9QBSF4Y9n;QBSF4e2QOXExZR;R6WsSY4w6c_0iYc_[GRglJZHZ90cUlJZHZ9",
  "w6rz0iYrzXxRwQlzpAWgT[QUQFQUQcQAQvY<SMSXa9Qmy6rDWsZSQ?rD0RtlJQAUre2T2Rwdrm1YOvyBUTQ_VbDQQUqUv",
  "]vmATS[O2m6TS[O2RLjQTS[O2TXjQTS[O2mATSU3rXq:2m6TSU3rXq:2mAU3rXTSq:0QMsoRsYXSXiuQDSmaL0ryQNRsYX",
  "s8R<E[jQBFQ=TtnGUw]vhim6[O5mA[Ow?jQ[OebjQ[OfXq:WFZnQcR2Z[QgSiRIfLZ3QXR6UsQbQNUv2QQMT<Q=Uv2nK",
  "QwQLj^Uv0ilb9RP;bgUvSXs5R2TnSdRd<@QOQaVjVrU^1T6QEQf5h]T6QEQf1RwiTIR5q15QURTRcRkQuRbvUQLQ<pd",
  "SPRDRdSPjWQBD]G]QQ_virVT3WXv>XT5VtvirV5_ySQ=XTNlcqzQhjuV><VxQ=QatT3TvRZugXtQRVPSLBQl4",
  "RZU2S1cCU6R8dsTluNuMuOG=x[jWvUQLQ<pd<hvUCnPCV1ScSM5h]RwiTIR5RBQQffNiS[C5h]dw<b;Q]@Ue45SLBQl4",
  "S8AQLqcS4R8RLqc5Z3QXeKhm5R;Qnqc<D]GsGQd4T[b3LUv0_DlgSXs5R2Tn=QDc[sGQdQcpcUP<b;Q]@UeQcpcUP",
  "Q2x3WbQA;UGQgRQhc2R2R12[_R2R12bJQa[sRbSMfYQb;y9fY^vUCRlQTVPScdHQ=S1^d2SqtSQa_fQyUcXJjfp@SYUv",
  "SOWbQAcOZEXJjfcO_^UvSOWbQARsSY@QkTD^atSQaQ?VyT]aoiWQBhfQ2kbziswZ5ZNZkZj[V[g[T[fh8itTJgrSH5f5RY",
  "yv]Zyk]ZS8Wi]ZmW]Z<v=]ZqD]ZGQR=]ZnlmMZrUgQFQsswZ5ZNZkZj[V[g[T[fh8itTJgrSH5f5RYyv]Zyk]ZS8Wi]ZmW]Z",
  "<v=]ZqD]ZGQR=]Znl0XDTwQ=^=2ixiFtpQ=^=[yTKiF2fKQ=^=Qwg=iFQwv=iF2v3Q=^=YHWXQ=^=WK]]@QUiF2=grQUiF",
  "2f5TAQ=^=2bqt_iF[yTKt_iF2v@t_iFQwg=t_iFQwv=t_iF2]pt_iFYHQR=t_iF2jyiFmMZrUgQFQshg[6i>i?hA_5jGjHgU",
  "b_jIhBc0gVi@_qhCkJeefegW^@iAgXiBjJiChxjj[6i>i?hA_5jGjHgUb_jIhBc0gVi@_qhCkJeefegW^@iAgXiBjJiC]a[6",
  "i>i?hA_5jGjHgUb_jIhBc0gVi@_qhCkJeefegW^@iAgXiBjJiC^zgMx[ziQ?]]=grSH3f5RYXNRc]ZSgTK]ZSgWi]Zp9]Z",
  "Riv=]ZqQ]ZS=QR=]ZuAfXzisw[W^^_paud@d?d=d>qHitgMx[ziZFs7UKQ<QzQDQvQo]qidk9idmUtik9timUbsljid",
  "k9bsljidmUbsljtik9bsljtimUxwRIljidk9xwRIljidmUxwRIljtik9xwRIljtimUpZW8ebXtUoeDic3XAeDg?k9pZW8",
  "mUpZZ0ebXtUoggic3XAggg?k9pZZ0mUnZW8ty]qeDic3XAeDg?k9nZW8mUnZZ0ty]qggic3XAggg?k9nZZ0mUyFW8",
  "5Vt]qeDictyXAeDTXXtUWeb;XAeDW9g?5VtXAeDg?ebXtUoeDW9icty]qeD^Tick9yFW8mUyFZ05Vt]qggictyXAggTXXtUW",
  "eb;XAggW9g?5VtXAggg?ebXtUoggW9icty]qgg^Tick9yFZ0mUpZidmRXAeDTXXtUWaqXAggTXXtUWebXtUoR[]Vic",
  "3XAR[]Vg?aq]qgg^TicmR]qeD^Tick9pZidmUnZidmRXAeDW9g?aqXAggW9g?ty]qR[]Vic3XAR[]Vg?aq]qggW9ic",
  "mR]qeDW9ick9nZidmUyFidmRXAeDVtg?aqXAggVtg?5Vt]qR[]VictyXAR[^T]Vg?eb;XAR[W9]Vg?5VtXAR[]Vg?",
  "mRW9XAeDTXXtUWaqW9XAggTXXtUWmR^TXAeDW9g?aq^TXAggW9g?ebXtUoR[W9]Victy]qR[^T]Vicaq]qggVtic",
  "mR]qeDVtick9yFidmUTSljidk9TSljidmUTSljtik9TSljtid9id3tiebuXeDaMk@R[RMWw_Sd9pZW8ebuXggaM",
  "k@R[RCWw_Sd9pZZ0w?uXeDaMk@R[RMWw_Sd9nZW8w?uXggaMk@R[RCWw_Sd9nZZ0]@uXeDaMk@R[RMWw_Sd9yFW8]@uXggaM",
  "k@R[RCWw_Sd9yFZ0ebuXR[]VaMk@R[bMiGd9pZidw?uXR[]VaMk@R[bMiGd9nZid]@uXR[]VaMk@R[bMiGd9yFid",
  "mU]2;pZW8QGZ01nZZ0QGW83fHcJSrY0[NZ09b4[NW8lFcI3Z03V?3W83dkk9Z03V?3W83dkmUSpR[XAW83nZXAdk",
  "k9SpR[]qW83nZ]qdkj6_>YXnbvZ5]ffftpv72_>YX2fKv7tp]fjtQwb0v7WsZ?ffe3@SSQCUlv7tp]fjt2fKv72_>YXtpv7",
  "2rmffqDQPff]P_>YX0obWwRQVz0xk^M]yZmVzj6vZ]PvZ0pwQa[NZ05W82cJZ03r4Spr4W89W81cJSrr4Z0QIW85W83r4Z0",
  "QGr4W8WF_OncoTSRrSR8TcQsjZoVNQQolR^YS]n_OSXTiXO]VlrRd5VtlrRd5QXVGEQQQ_xCRQ@UCSQTsRd5cJb4[NSrlrRd",
  "z1Y0[NSplrRd5fHxCRQ@UCSQTsRdWF]n_OyTQx_O]vZ3@n5XxZ3@n5]vVtZ3@n5XxVtZ3@n5]vVhsjSCU4QjXxVhsjSCU4Qj",
  "]vRLjQ[OXxRLjQ[O]vRLMU1q2Uu[OXxRLMU1q2Uu[O]vmA[OXxmA[O]vdXU1q2Uu[OXxdXU1q2Uu[O]vmAU1b:XxmAU1b:",
  "]vTXjQ[OXxTXjQ[O]vTXMU1q2Uu[OXxTXMU1q2Uu[O]vm6[OXxm6[O]v^;U1q2Uu[OXx^;U1q2Uu[O]vm6U1b:Xxm6U1b:",
  "]verXxerNQQolR^YSUuerWsR5Qyk50vS4Xx_w0g3_wd^FVtlrRdT[Z?QBcB4WFiEd^x0etaqetf^TDet5cJetz1pwQaK^g",
  "5QtRljzcJSppwQaK^gZM_>ToiE]P_>ToiE0XzbpKvoa<UD_wj6_bXzvduZnb_bXzvduZj6SppwQaVw^KQOUj",
  "]wpwQaVw^KQOUjnbSrpwQaVw^KQOUj_lpwQaVw^KQOUjj6VpiEnbVpiE]v[NSr[OmR[O2cJSp[Oaq[OXxKvoSXTiXOSpet",
  "aqet5cJSpfHetf^TDSrfHetncj_XOVtKR5XPUIc[2RLjQU3QLf@XKjQU3rXSpetz1et0eU_wncj_XOcJSppwQf3[NSppwQf",
  "wepwQf3cJSrpwQfQgZ;FcJSppwQf3[NSppwQfwepwQf3cJSrpwQfj6Sp[O]w[OnbSp[OXxYs_O]vYs_OXxYs]n_O]vYs]n_O",
  "nbSr[OWFQSR;FQzPOTNSCor0VyQhaUSXvUITQTNQkT^WF]Enc=]E0oby6U^w1Tc[]SIQjSXW=0S3BYTR^VJVz0^eR^VJVz",
  "yMQ>[<YO0RgxtYO]vvjTlXxvjTlT[QtCQalgSRQ[lIUckFSXQMQ]l30VyQheTFQz[iQ<nSOs8QaiURPn4yTS:ESt]s__",
  "WFzDESt]s__SX[5R8UcovZJQ=JQXQ_]UQaKvo]vSpnN]wnNXxSpnN2W9nN]wnN2^TnNSXLZ?Y;xCKQQWhTNuhRGSo",
  "s9RJCRtQ]mJSoT[dKRQQFR_SoTNUZ[QUkO0QTbl0QXVGQpQEiDTNrGQAZ:TNtYVjJQXQzUJTkQNSY_[QjSX@X3R[xFUr",
  "WsQORBUv0>RJZmLl70[5ITDoJARbSMUs=Rtt20P[iP^80RwQWd3;fLUASHW6L4S8Rc4UmTcT]SRQRR6SRXuQ0_nR;RETv",
  "TJQOUBUft<;VjQ<VcTzXxQ=xzhbQwc^hbWFQSc^hbyTR;FQzPOWsRcdY]fdfSA0[jQa]fdfSAXJQN^ERkWsSF_[Soe2QOUB",
  "XJ_[SotkRLAb:SXSmR<V>0R<QTVngMD@R;40T7Ue80QORWO0RER<VnanSFQR6TNiST]0QL8s;RcE80XUKYLw3QXtUVn",
  "SXTmQn@z]VnTNQlpxQXV>0>TiAVnUsR5BWhyUtGtwSHe6hjSPgpUOl=UWS9cSV>yLtGtwSHe6hjSPgpUOl=UWS9cSV>",
  "QwdRRzQS?ZcXx]UWw?Zc2[tdE?ZcWFRskvQS?ZcyTdRRzQS?Zc]v]UWw?Zc2[tdE?ZcXxBkvQS?Zcs8WwDQAQvO0]feg]g",
  "0bheg]gyKSqQsbhegT6OQwg=T6ZregT6OXJ?q0SQZSSoYHSmR<x5QwVcDSoUfSLWwPWYRtiD0ZqWwPWYRtiD",
  "yJARPQBQ_Z3yGJQvUv0Z3yGJQvlKR2UMvwQ2YV[jSeOSWvwQ3YV[jSeOSWvwQ4YV[jSeOSWvwQ5YV[jSeOSWvwQ6YV[jSeO",
  "SWvwQ7YV[jSeOSWvwQ8YV[jSeOUXQUQNS1RfXuAQMO]vR;ARPQBQ_Z3yGJQvUv0Z3yGc]xpQNUvmMQ]QtPMZ3yGc]xpQNUv",
  "UszxQTayxpQNSoUft<BRQRcUv0RJQcVVzr2VVr?2VVU=Rq2VVU=S02VVU=S>2VVU=S6XxVwQLVaW8kCdFWFo0Q^X0TgW8",
  "3ixX0dFXJQQm7;R2aE^8SUTv0VNd3;fLV3XuaE^85X5QBTDs4V:^8sHXuaETvXxoYShWFSQQqSh0[5ITDR[DS1R10iSTYQ0",
  "TN[bg5QDQXgkSXREi_;Vj>SLBSdzYVnw3_[O0_[IKrMWsTtT]0WHSZSXREi_;VjHQNROO0SmQkUv0V=R<MRzMXUO",
  "0rea1VSbE=]E0VQa1kkcrRPER^W83Z0UfQOQ?QvSo0xbQCTpREWHSo0Sbc]Q=SF_[SoXh_[So0aS[7QsQ=SF>RIR[[8QLSo",
  "XJ>RIR[Q=SF_[So2[pTqsz3R[[8RIR[Q=SF_[Sos<[8QLQ^Tqsz0]V[8QLQ^Tqsz0YsuZ2YSiEQwQxuZXJlcTmt20fGQXBt2",
  "yJIlcQsVhy6[]VxDUvTNT<Q=TvWsR;QNQ_R<V>WKUkb:TNQNWhUsl_OtkR;8s;SLTZTNHRcSAWFdfV6JTsQ[Q0SXVbnV",
  "SXSFR5VbnV0RTQRBR;RKSXSLRTAdWQz]gSXWbBQNRlc?T[S3=r8SXroktRkXxQ<Qz[xH@QoITQRxU^]vQ<Qz[xH@QoITQ",
  "RxU^SXvUIQTQ^reQSQ?SfSXR;z>HQRQYBSCors9TvWFQSvUITQw1ceRsSC?QYR[QzTv[GWjVSbETjS:ESt]s__",
  "2YSzDESt]s__Xx[tQYQR_OTNdzb3Wh^MR5W[c]BSZ0RgVx?UCVnUsS1R1TNQOQSJScU^0_?RO@Q^X0BcIhxBdzb3Wh",
  "TNRQQROWKSkYmRk0hXZ1h0SaRC@kPSaa9i_rM]vmGh0SaRC@kPSaa9i_rMXxmGh0SaRC@kPSaa9i_rM]vSpb3p[QNpd",
  "XxSpb3p[QNpd^MWY_jTtSohwX0TXjQ[OZMBbnYmRkSXTig5QMQ]l3WsQtR^fHQRX0beQRuU]vRw?Uc0XdRwS1RuSpYmPdA",
  "5YmPXn0S3RwQQQkS1QMlKfLR<QTVnhwo0o4R[y;Usn;U4Qjs=VOQsaStIQsDn;U4Qj0^;VOQsaStIQsDn;U4Qj0[_Dn;U4Qj",
  "WFRstYQQQSVxRDR6SXHQRVKhIQAUJTNHR<aLTNS3vgj4R5SIvEQn40WHQOQ^WcQaHos2a[VOrYXJQllKR2XtQmV_4",
  "_WR;RETv0VyQheTp@xZR;R6WstSRETvWsgq;[iS:SMWsQNQARkSX>TsR0X9q=rEq_oVSXLAT]0S1TjLSm4Us[]Wyr8[GUr",
  "tkQlzSQcKQTLUv0Vr_hTwU4QCcBR_UvWs?RDYVS7T:TNW9QQuUXxQ=gqF]VYrYSQS^y4WFQS[ZVTPQSBtFQXO",
  "XKVdRlQqRzQSBtFQXOWFQSBtFQXO0b5RlQqRzQSBtFQXOyTBtFQXO2YplIRbUN0vjTwSCBkh[GQlQcQ<QAWC0x4[;4",
  "0QUyDRg40iq[uQfndUws;S1SISavAUfQAQnR^vAnbSrDglWqUsglWqj6SrDglWqXxQ?AU7WFTnAU7TNQyRbUNhwlIRbUN",
  "XJyBS;;RKhwRfyBS;;RKT[QtCQaRKhwRlQtCQaRK0rea1Qsn@iDchn@iD0^i_7cCcIch^i_7cCcI0]MiDSXt;X0]MiD",
  "0rea1Qs]MiDXJQM@SLcCcISX@X3VjVHYPR6WsZ2T6R_nS_8f1fYQtCQQ_8f1hwSQTKRlQtCQQ_8f1WsTKRskv_8f1",
  "WFSQZ2U1^I]EXxoZU1^I]ESXVhLrYSX@XdQorea1VSbE=]Ed^Q<bE=]E0^io1iXWFRsUqQhbE=]E0rea1QsiXchrea1QsiX",
  "UsQRQDt<]ESXt;bE=]Ech_<0^io1_<0]pWwf12m;S9QRQDt<]E0RBUKm;e2UoboZ3VYQRi]hE]Echv3boZ3VYQRi]hE]E",
  "0f5TAm;0RBQET6Ulbo_<0T6R_nS_8f10^io1T6R_nS_8f1chT6R_nS_8f10RBUKDVTQMc]eISxX0Q=JQXxSWFSQJQXxS",
  "XxQ=JQXxSe2UoDVTQMc]rea1QsYSSQJQXxShx^io1v3U1^I]EchT6R_nS_8dVDQRQDt<;_<SXvUoYL4",
  "[GUoTEQ=TpAzcvUoYL4hwlIQCnPQSvUoYL4SXVhLSMhwQSVhLSMT[QtCQQ_8f1e2UoT6R_nS_8dVb8DRDQLQA;_<",
  "chv3T6R_nS_8dVb8DRDQLQA;_<TNtYYiSXt;uZgMXQQ]_jroBtYYinbSrQ<nS_8t;wxj6SrQ<nS_8t;wxnbRMWwt;wx",
  "j6RMWwt;wx]vd1taXxd1ta2g9S;RfoM]v[tQYhhSYX0RKchg9S;Rf]yUvvzq:0hiq:chq:QwcxgFoP^XxyNQk^Xxy",
  "aogFoP^XxyNQk^Xxy2TtuXoP^Xxyd9oP^XxyTNR<QCVSSNSF;VhTmX[VR]=chg9S;RfoM2]UQag9S;RfoM2eInC",
  "0ZJYphE;]UQaKvoWsJQXQ_nC0ZJQ=JQXQ_]UQaKvo0hiSp^Ybj]=]w^Ybj]=[yQqYNQUQsSp^Ybj]=aq^Ybj]=2m6]oiVv<",
  "2mA]oiVv<chm6]oxy2mA]oxy2m6]oiVv<2mA]oiVv<vzSpmFwov<]wmFwov<0hiSpliwov<]wliwov<^MQv^nQab6x[zisw",
  "uNuMuOwbwkwjwgwiS=]]itQgZ;dEkgswuNuMuOwbwkwjwgwiS=]]itYH=x[VwQLdEkgsw9UP9VL9Q=VF9ia9RBRKkMW49=UW",
  "p>UJY@]]ithwQVARzMWv^x2dUSoXhQRyC2fGR5t>SoQweWSl2^xy]^jSl^MQzQ=UIU1Qa^xchR8TcMQ]DDQs^x0YF^x",
  "chYF^x^M_^QsYF^xchxGQsYF^x]v^x0y8QYiuMobRuUV[K2cUMobRuUV[K]vUV[KhwhElJQCQsXXR[^x3cfR[^x",
  "SXRTc>eI^xhwRsQQBaHU=boeI^xs=t[RzQ<X0^x0^;t[RzQ<X0^xT[jWMVY^IZmQ<kyX0^xWsnPQrVY^IZmQ<kyX0^x",
  "ch[NdXQBt;X0^x2cJdXQBt;X0^x0kxlh[NdXQBt;X0^xTNR<vQSCUO0kxlhcJdXQBt;X0^xhxYpX0^xncU=v>Z_QNQs^x",
  "WFMv>Z_QNg5eWSl2^xy]^jSlhwhEMv>Z_QNg5eWSl5^xGQX^jSl0T6R_nSMVoKQs^xchT6R_nSMZuQT_T^x",
  "UfVSEU=REAc]^xhwQVVSEU=REAc]^x0^iMrea1Qs^xfX^EvQSCUO0VQv1QURBQQQ_n5XxbrcrolQv]nX0[OUsQNxq^SSdSZ",
  "0^iQSb;T^QwgHT^e3WwMrszsTmcORDUTAb:^[WwMrszsTmcORDUTAb:0QXVarR0y1gCV1DZ3VSnGb;T^w5DZ3VSnGrk",
  "0izFltXJZ_SF>SeQ_caR^^9Tb0bmfGR5_cXJZ_SF>SeQ_Q=QtR^^9TbSXrokwUw5gwXx[tQ<U<Uqa7Xw0Sxf@",
  "e2QLIayVj^iR^RLj0nbSruxf@j6Spuxf@ZMWcQZ;]6Tv]PWcQZ;]6TvWsZ?;WcQZ;]6Tv0eUW9l42^Tl4ZMeDTSvhQBnV",
  "_4UcXhbuIXS0bmSrl4_ll4s:q4Y<RISn0vSQcznzsSa]VrqSMXxcrBaHU=RBQ<QserXarSVUSeR11UVSeR1QwTiXOVUSeR1",
  "3UVSeR1XJZ_SF>SeQ_RC@bETj]NaJ2RM@bETj]NaJ_loK]woK_lTSoK]wTSoK2RCmCrz2RMmCrz_loYYNQUQsc_",
  "]woYYNQUQsc_]jxwrZ]?xwrZ0pVEsmQsbeSlTNeVEsmQsbeSl]PRRY<c]xs0bmr[2^x_lSrSl2VUsxtosx_lSrsx2VUus",
  "tous2VUTSustoTSus<RTvGrZT[QzTsRIDSm[nRlb3R1TIS5TIRSbwRSTIRqbwRqcMRqZORqTIS0bwS0cMS0ZOS0ckS0ciS0",
  "cjS0clS0TIS>bwS>cMS>ZOS>ckS>ciS>cjS>clS>TI_sbw_scM_sZO_sck_sci_scj_scl_sTIS6bwS6cMS6ZOS6ckS6ciS6",
  "cjS6clS6TIadbwadcMadZOadckadciadcjadcladTIaGbwaGcMaGZOaGckaGciaGcjaGclaGTIpJbwpJcMpJZOpJckpJcipJ",
  "cjpJclpJTISBbwSBcMSBZOSBckSBciSBcjSBclSBTIdBbwdBcMdBZOdBckdBcidBcjdBcldBTIcnbwcncMcnZOcnckcncicn",
  "cjcnclcnTIY]SBbwY]SBcMY]SBZOY]SBckY]SBciY]SBcjY]SBclY]SBTI]bbw]bcM]bZO]bck]bci]bcj]bcl]bTIQ5]b",
  "bwQ5]bcMQ5]bZOQ5]bckQ5]bciQ5]bcjQ5]bclQ5]bTIQ6]bbwQ6]bcMQ6]bZOQ6]bckQ6]bciQ6]bcjQ6]bclQ6]bTIY]]b",
  "bwY]]bcMY]]bZOY]]bckY]]bciY]]bcjY]]bclY]]bTIRvbwRvcMRvZORvckRvciRvcjRvclRvTIc:bwc:cMc:ZOc:ckc:",
  "cic:cjc:clc:TIdjbwdjcMdjZOdjckdjcidjcjdjcldjTIY]RvbwY]RvcMY]RvZOY]RvckY]RvciY]RvcjY]RvclY]RvTI]F",
  "bw]FcM]FZO]Fck]Fci]Fcj]Fcl]FTIQ5]FbwQ5]FcMQ5]FZOQ5]FckQ5]FciQ5]FcjQ5]FclQ5]FTIQ6]FbwQ6]FcMQ6]F",
  "ZOQ6]FckQ6]FciQ6]FcjQ6]FclQ6]FTIY]]FbwY]]FcMY]]FZOY]]FckY]]FciY]]FcjY]]FclY]]FTIXRbwXRcMXRZOXR",
  "ckXRciXRcjXRclXRTIQ5XRbwQ5XRcMQ5XRZOQ5XRckQ5XRciQ5XRcjQ5XRclQ5XRTIQ6XRbwQ6XRcMQ6XRZOQ6XRckQ6XR",
  "ciQ6XRcjQ6XRclQ6XRTIY]XRbwY]XRcMY]XRZOY]XRckY]XRciY]XRcjY]XRclY]XRTIc<bwc<cMc<ZOc<ckc<cic<cjc<",
  "clc<TIQ5c<bwQ5c<cMQ5c<ZOQ5c<ckQ5c<ciQ5c<cjQ5c<clQ5c<TIQ6c<bwQ6c<cMQ6c<ZOQ6c<ckQ6c<ciQ6c<cjQ6c<",
  "clQ6c<TIY]c<bwY]c<cMY]c<ZOY]c<ckY]c<ciY]c<cjY]c<clY]c<XWy<W?cg1zoY1TSW?cgXWTSW?cgZMSrTSW?cg",
  "XWy<usY1TSusXWTSus]?W?lt]jW?lt2bsSl]?bsSlY1TSljSlXWTSljSlY1bsljSlXWbsljSl2y<bsljSl2W?S<^ISNbf",
  "]jsq]?sqw2RETsFcg9zo2y<W?Z4nycgQGzoY1RRMZ4XWRRMZ4Y1TSRRMZ4XWTSRRMZ4Y1ldhE;erXWldhE;er",
  "Y1n6_NfjhE;erXWn6_NfjhE;erhyd]oJeWSl2]ToJWcd]Sla<_=W?UG2]TW?UGw4W?UGa<_=W?UGhyd]RRY;gu^jSl",
  "2]T]RoJeWSlw4]RoJWcd]Sla<_=RRY;gud]Sl0caR^fHBdzQ=QtR^^9TbWsQtR^fHBdzcaR^^9Tbw4RRRsdzgu^jSl",
  "hy^jRRRs[bnGeWSlWsQtR^fHBdzgu^jSl0caR^fHxCnGeWSlhy^jRRRsdzgud]Sla<_=RRRsdzgu^jSlUf>TA]RVXpY@vQW8",
  "0]RVXUVQPQUlJQCR^RLj09syebUQQPQUlJQCR^RCoq9RMoqs=RB[A]2RseVSl0^;RB[A]2;pVSlw6]2;pVSl0iY]2;pVSl",
  "w6]2RseVW?hhVn5pVW?xsnbRMWwjaSihrRseVSl2RCWwjaSi^KpVSl0kfcGcCbnbeSlTNcGcCbnbeSlXW]RjX^Vr[",
  "Y1]RjX^V^xSX^VUV]RWtr[w2W@U8yNW@U8XW]RomT4RKZMSr]RomHUu_w]jy<n6Uu_wZMYyW9SrYy^T[^SAeb;SrYyW9[^SA",
  "XKcPSrTXcPSp[^SAmRTXcPSr[^SAZMYyW9SrYyW9[^SAXKcPSrTXcPSr[^SAZMYy^TSrYy^T[^SAXKcPSpTXcPSp[^SA",
  "Y1^qRLfj]1XW^qRLfj]1]j^qSrVK]1]?^qSrVK]1Y1^qTXfj]1XW^qTXfj]1]j^qSpVK]1]?^qSpVK]1Y1^qRLhG]1",
  "XW^qRLhG]1]j^qSrQ=]Y]1]?^qSrQ=]Y]1Y1^qTXhG]1XW^qTXhG]1]j^qSpQ=]Y]1]?^qSpQ=]Y]1Y1^qW9WtVU^qdk",
  "]j^qSpKUg[Acf^qW8XW^qW9WtUV^qdk]?^qSpKUg[AXX^qW8Y1^qW9WtUV^qV?1^TWtUV^qdkXW^qW9WtVU^qV?",
  "1^TWtVU^qdkY1^qW9WtbmxH1TXRlRDQbzAxHXW^qW9WtbmxH1TXRlRDQbzAxH]j^qSpKUg[AXX^qW8]?^qSpKUg[Acf^qW8",
  "]PTSW?R8TcQsrJ0cuVRWt^x0a;^GzdWt^xY1]RWta;aWXW]RWta;aW3ummLWtr[Y1]RomT4jll:Wt^xyQWt^x",
  "Y1]RomHQSb;T^w5Wtr[ZM[uT4Z4]P[uT4Z4XKSQksZ40TXSQksZ40bsizcORDUTAb:0QFTn[lRGQSRyQfRej2cCa2e3mCuy",
  "^[mCuye3mCc_^[mCc_0QFTn[laZSpUTqzaJaqUTqzaJmRXoxKaJaqXoxKaJe3rvn=fU^[rvn=fUe3rvn=rx;QRUMRgz@",
  "^[rvn=rx;[icUz@e3rvn=rx;[icUz@^[rvn=rx;QRUMRgz@ZM]oiVVTf@]P]oiVVTf@ZM]2;ZsQTZ9]P]2;]JQTZ9",
  "fXSp]2;]JQTZ9]w]2;ZsQTZ9ZMeIrz]PeIrz0g3Q=zus<QFQWQFTmqatlS3?a7]o^iR^Z0]P]oSVeoQ^_O",
  "tlS3?a7SrRrQLf@0RrQL^m;rR0ujn5SXXZQNdr]o^iR^Z03V?ySn5ovn50RrrXfUovRrrXfU0psRTQc]o^iR^V?3dk",
  "tlS3?a7RrrX_Dso;YTR^[i]RVXnZW8QKZ0QJpZW8QKZ0QJSrR[V?QJSpR[V?QJSrR[dkQJSpR[dkovp]cbSSQf",
  "0p]cbSS@Fv^qXbeSnz1sp3Spspd^F]VWGhxq:2VhsjRd2y1rk2Vdxq^SSdSZTNSiRIznzsSa]VVoY;@_C_bznzsSaq:",
  "2[pQSk0UTRyVeRKhxkfcGU=ZJfGR5t>Sos:]RomHiEd^Q<X0KvofYvo2jl2t9d^babeY0nTW8k:bMTqkkY0nTW8",
  "SXrocaR^^9fxhf[yQtR^^9fxhf2_<RU_wQwTi40V8_@VSZnWh0U3QL[Y5fU0Qo[i[O0U3QL^mQNWiQoc>R0@VKQj",
  "]PbrWtSp[OZMbrKUg[Aq:0izRlUg[ASr[OT[QbQ]XOSpetaqetWFRlQby90UhQBx0etaqetXxS:R<E[jO]vS:R<E[jO",
  "e3@QVvGZHSQzu^[@QVvGZHSQzuZMesQVvGZHSQzu]PesQVvGZHSQzugLBR:QdQcQRv?QnRk0Q]QcYEQRv?QnRk",
  "gLv?QnSab6ESmVSFq:0j]YTQsIbuIXSSXTi=U<U6Wca7rec[gLV7S3kk>OSXaQi_RIb8r=0cuVRoJheVhsjRdnya;Sn",
  "0ScQUSeQ_Y0oJheVhsjRdanQLS1HSNTVw1QNU_Q<hvSqrM0TXjQU3rXSpetz1et]v[tQ<F^TSl2vS4XxVwrX^TSl",
  "WFo0F^TSl0QNQAQXMVoQhQ<wx2YS_Oa<UDer2eIera<UD_w2YSiE0rqVsRzQqT@R60y1gCV1aWSXgCSYFv^0y1gCSYFlt",
  "T[QWQSrk2y1rkfXxs0bsxs0m6^EQCQsoKs=VX^EQCQsoK[GQRRkXJQRRkWKMQOPo0QYTgaWS9JV1aW5VDaW2R;AV6^GX2f@",
  "1xsQw]Nm1aZaW5R;AV6aW0V8kwR[aW5Z=aWWKMQOSaVDaW_WQ<?SC;ixQSWgSXS7IS;FvJ0xwRIrOQ_aWWsQRQnQcVhQavJ",
  "gLl5QMFesULowRPTm=^mhfTNSi?tJSQ[<YO0pVQRT6U4YO0]LQRT6U4RGFZ3@Rr^KdRXEQOrdRySM",
  "RijaSi^KdRXEQOrdRySMgPQaQRBJhpR^nTRySMgLl5Q_QOrdSEU1QaaW0RTXuQ?AV6rOQ_aWgLl5QMFVUW?UG5Uhy45m1YO",
  "5R;_c5v^5fU0]6Tv0eUSpbraW0QFTn[lRGQSY^[8RsR:CRBYOTuADU^TuR8Q>XPYO0dURpbabeSnTfSiS7XY^aaySn3a;Sn",
  "3eL3a;U8RiRookUPS[To;[OXJQRSYRpU<Qk^XSn3eLSgQtR^dFViR5R^dF0dUVR[iSpVpiEz1VpiEs;XPSI;QXRstYb8r=",
  "XJyBS;Rp[Y3fUSXSFApYQab8lk@FcURsfQXTSXIafb8r=XJyBS;VR[iSpVpiEz1VpiEhxIyBS;RpbbbIXJyBS;VR[iTS_w",
  "hxfGR5t>So0dUVR[i[OXJQRSYVR[i[OXJyBS;VR[i[O0aSAQXYVR8r=^[QPR[aSAQXYVR8r=0QFTn[laZQhtJQ_BR:CRBYO",
  "0SqQMESqS;;QXRsRgR8r=0m1RGf@yJAWyhhyC5v^0m1RGFv^5kwUwyJAWykwgw2Wtm1YO0m1aZWtR;_cyJAV6WtVo;Wtm1YO",
  "0m1aZWtVo;WtR;_cyJt>RlUg[AR[_@VSFR;_c0m1RGRlUg[AR[_@VSFm1YOTNbnR;t>^mQNWiO2m1RG^mQNWiO",
  "0esZnQcm1YO5R;_cTNbnR;t>^mQNWiQooJIafb8r=0kwSx[Y2QX[YfXkwUw5gw0V8m1UIkwUw3gwSXJRgR^eUgw5Uw",
  "0kwZ=U@JsmR^kwUw2SxFr_QLSNbf2QXFr_QLSNbf2SxF]VxH2QXF]VxH2SxFTSv^3fUk@fUtnmJXOfU0kwQXFTSv^1fU",
  "0QFTn[laZQ<Qk>[ipUXdRwS1YOS_RrQcpUXdRwS1YO0cuRp^P0ScQUSeQM[Y0bs]VVoFzo1bscg0a;^GX2[YViR5R^dF",
  "0RBc^QORfQRSYQSUTTsSZTNVWrqUq[Y0cuF_<0oIxQbbbI0x=QEm0xOWnfR0cuVRWtdUSo0dUVRWtn<0cuVRWta;aW",
  "fXBTpV6rA0ixRs^2XP?jwcuRpO0VQB^2XP?jwcuRpO0cuRpFeZWtR[eZU80p_@FoZ^ff7QTY<RIrRe]QTY<RIrR",
  "f7QTFd1gG_tSne]QTFd1gG_tSnmLQXQSheY_l:QXQSheY_mLQXQShexQVarRl:QXQShexQVarRmLQXQShexQ[Y",
  "l:QXQShexQ[YmLQXQShexQVaWtW8l:QXQShexQVaWtZ0mLZ=x=QEm04l:Z=x=QEm04mLoJQvVs]LtRl:oJQvVs]LtR",
  "mLR[^<x=QEm04l:R[^<x=QEm04mLWtj]]LWnWtt9l:Wtj]]LWnWtjlmLjXUTTsX3Z=rAl:jXUTTsX3Z=rAmLjXUTTsX3Wtt9",
  "l:jXUTTsX3WtjlmLWt]JUyWtj]]LrAl:WtZsUyWtj]]LrAmLjXheWnWt]JUyjXherAl:jXheWnWtZsUyjXherA",
  "SXheWnY0Z=jl1t91ZsQTVarR1]JQTVarR0j]]LWnY0Z=jl1t9QwheWnY0Z=jl9t90RBc^X3Z=jlsH[2TQ2WtZsUyWtn<",
  "sH[2UyWtn<fXQ?SLRujlsH[2TQ5ZsQTFfUl:U@JsmR^jlfYUg[Ajlf7r2bnKPlJRYe]r2bnKPlJRYf7r2bnKPlJTAjXherA",
  "e]r2bnKPlJTAjXherASXIsjQA;QPTQ0[MTDQPTQSXIsjQA;QPUyfR0[MTDQPUyfR0cuRpFKd5SaSnyPzmjXQvVs]Ln<",
  "yRQojXQvVs]Ln<yPzmjXQvVs]LtRyRQojXQvVs]LtRyPzmWtn<yRQoWtn<yPzmWttRyRQoWttRyPzmWtumyRQoWtum",
  "yPzmWt^<umyRQoWt^<umfXDm?kjQwteOSXb;VTf@SXgHVTf@SXb;n=dURpXlSXgHn=dURpXlSXb;n=IyBS;RpXl",
  "SXgHn=IyBS;RpXlyQVjZ=xQ[Yw5VjZ=xQ[YyQVjWtn<w5VjWtn<yQVjWta;aWw5VjWta;aWyQVjWtumw5VjWtumyQVjWttR",
  "w5VjWttRq=Sp_DR0UKaW]w_DR0UKaWTNfQg5b;T^QwgHT^Qws2fRQwq8fRyQjXgHT^w5jXb;T^yQjXb;T^w5jXgHT^",
  "fYUgRzQSb;T^5R[_@zsSaxG^mb;T^e2QLIayVj^iR^syUsQnUCR2LFT6Qc@UO0RwiTRPQBQ_m1YO0R2tGWKQQR2tG",
  "SX^VSpl42^Tl42W9l4UsQNxq^Shr^mQ00tjbsSrvhQBnVfXtjSpvhQBnV0tjTSSpvhQBnVfXtjTSSpvhQBnV",
  "0bmxGhG;SpROIKTDVjTStiSX^V^Tq4Fv^2W9q4FfURjR0_j^V^Tl4fX^Tl42W9l4Qw@TWQckxSoovescQkxSo",
  "k7zyRJYPRzFYMb6ES;QShfs<a1=Y<RISn1U80^Tq4Y<RIU8mMsjJFlt5a;aW0bsizRlQRQOSaQhrVXarSltQgTpV6aW",
  "YHSLRujlsH[2TQ0j]a1TjheZsUyfRsH[2UyfR0^yQLQSgCV1XoQOSaQhrV0eUbstjaW0esQSgCV1aWXxq:WKMQOPX0q:",
  "hyXEZq@eha<xRehSXWcXEZq@eha<xRehZMRM@ehY1eISl]jeISl]?eISlhy^jeISla<_=eISlw4eISla<_=eISlZMSreISl",
  "s:TXhE;Slw2vlsy1RLj0yNvlsy1RLj0SXTiXO@_Cet5iYet5cJSrfHetf^TDSpfHet0[tQ<x0etaqetRe_Cet5iYet",
  "0S<^I_OWFXtWBoTXx[MoT]vRPP]n_OXxRPP]n_OWFYVQUf3SAXxxqf3SA2QyQETmSA]vQyQETmSA0]VeIQyQETmSA",
  "WFXtWBQc_w2hierXxhier]vhivS4XxhivS4WFUueri4QFcV4yTR3vS4]v]Vt3a8Xx]Vt3a8]vVtt3a8XxVtt3a8ZMz__w",
  "0VQVUpWZMRRY<c]xs0bmRCs1QSRTvGrZY1y<W?cg1zoSg]Y]1Re]7RIljSl2W?S<^ISNbf_4TsFcg9zo2y<W?Z4nycgQGzo",
  "2]RomT4RKUf>TA]RVXpY@vQZ00cuVRWtr[0y0a;^GzdWtr[Y1]RWty0umXW]RomT4t9RigHT^Y1xwrZXWxwrZ",
  "0y0a;^GzdWt^xXW]RWty0um0a;^GzdWtr[Y1]RWtum3y0a;aWXW]RWty0a;aW]?YFQFQWQFTm;SlSXTYWwheguXESl",
  "2iWQBb3^IQSWcXESlXxYs]EWF]n]EyTQx]E]vmAxqf3SAXxmAxqf3SAcheU_w2m8QMFm8Q_rRQgZ;Y<RIrR5Q0",
  "QgZ;dEQMQ]l3SXheguXEW?TR_TrJT[jWQBb3^IQSWcXEW?TR_TZ4SXheguXEW?]VZ4T[jWQBb3^IQSWcXEW?]VZ4",
  "T[ay]RVXXXQPQUTnQXXEZqQfSX^VKay]RVXXXQPQUTnQXXEZqQfY1s0]js0XWs0]?s0ZMSrs0s:^Ts0hyd]s02]Ts0w4s0",
  "a<_=s0Y1YFxGoU]jYFxGoUXWYFxGoU]?YFxGoUTNeVYF^ic1rZ0pVYF^ic1rZY1YFsq]jYFsqXWYFsq]?YFsqpHgud]YFsq",
  "2]TYFsqw4YFsqa<_=YFsqY1d4TSltbF9cg]jd4TSltXWd4TSltbF9cg]?d4TSlt0]VREV<ktRks<REV<ktRkY1YF]RYEUVs0",
  "]jYF]RVUVjXXs0XWYF]RYEVUs0]?YF]RVUVjcfs0Y1YFdRAa7pW]jYFdRAa7pWXWYFdRAa7pW]?YFdRAa7pWY1YSo0uz",
  "]jYSo0uzXWYSo0uz]?YSo0uz0pVYFSr[FrsoU5iY[FrsoUmR[FrsoURe_C[FrsoU0Qhvh;Z02W8gMQD]LZ02W8",
  "WsTKq_TDRRQoVwJR^kfcG4XWeISldiQBs5R2UMj2QcSE=T2RwQQS1O0y8QYiuMobRuVUg82dXobRucfg82iuMobRuUVg8",
  "2^;obRuXXg8]vVUg82cfg8tog8yVg8]?d4bmvlRCoqQGRMoq]jd4bmvlRCoqQGRMoqY1d4bmvlRLj0XWd4bmvlRLj0",
  "Y1d4bmvlsyXWd4bmvlsyWFlJQCQsXXR[r[1^x5cfR[r[1^x5VUR[cfSl5UVR[cfSl5VUR[XXSl5UVR[XXSl0WYKKV6]R^TZ0",
  "3W8tyZ03W8mRV?aqV?mRdkaqdkXKQDeFX0n6_NF]VWGs:pX[iSEZ3@]olg0U@JsmQvbEj_Wh5R[YSZnWh2YSZnWh",
  "T[QtCQaR0QEF]qRKhxRK2n7RKWFZncCUqQhR62[tQYzgQhR6ySYSYVQUf3SA0]VeIWbf3SA]vWbf3SA2hiRLjQbrzgQhR6",
  "ebjQbrzgQhR65m6brzgQhR65mAbrzgQhR6gMD@R;QcpcUPw6_>ToiE0iY_>ToiEvzoZboYSRsSYT:0ZJ]qoZboYSRsSYT:",
  "XxoZboBSYT:0Xr^IX0oZboBSYT:q=xtaZhaYR0[<QNolcbSoanR8RLUN0T7UeSkpcUPZNZkZj0RwiTT7Ue8UsUzQNDQR:",
  "0S3a9=:0b1ERW:UsS:JVnWKSLQBVnXxU_QQSSQLVI]v[tQYQQiD0Rw?Qc]qU_V6QOTZTNRLSc80RQkj0QFUkOh6nPWI",
  "0QlTpJSA0UZROVKOs;SdBQTVnj5vdScSAZM_>To]E]P_>To]ESX@QOx0etaqetY1y<W?brRRVrO]jy<W?brRRVrO",
  "XWy<W?brRRVrO]?y<W?brRRVrO0QNAQopcTlZ5SXVSVI0QASYRBUyS3YjduS1QMlKQCQWQRnVS=CYPSMjCQRnVS[QRCYPSM",
  "RiQUf3SASWQhRzBASM0cuRpFQRv?QnPXlyJQnVSUvSX=VhSmVSUv0esQ<UvUszaVSUvovSrn50gmQBUCQhnETDdRSYt2",
  "angqTpASewpl]7S[Z>RkX?VS4UXgqTp63QpKm=V:xR7VvVxl94kGRD8VvSFJnH3ThUd3tEThUdWlU:Q>QNvrSsUS8",
  "UaQ>?RJ_eSGn]Ze4S=S3[D3QQ73RycZxhViQn_VRiSCQC8SWQCQASc8XjL7SgQAQn7Wev:_Z@7nve<TZSW_VTfHWYvrf?",
  "V:v:V:QN6V:>l7RiDScQNSaR=uJqXn^nyZ4V:8wZ^IUun^S[vFwZRuKvFSgm33ThT5WPe<@QlrMSWTW?REQBQ]hD",
  "3]MSmp[n]Ze4Tf>hpx?UCWYvrRal]7S[Z>RkX?VS4UXgqTp63QpKm=V:xR7VvVxl94kGRD8VvSFJnH3ThUd3tEThUdWl",
  "U:Q>QNvrSsUS8UaQ>?RJ_eSGn]Ze4S=S3[D3QQ73RycZxhViQn_VRiSCQC8SWQCQASc8XjL7SgQAQn7Wev:_Z@7nve<TZ",
  "SW_VTfHWYvrf?V:v:V:QN6V:>l7RiDScQNSaR=uJqXn^nyZ4V:8wZ^IUun^S[vFwZRuKvFSgm33ThT5WPe<@QlrM",
  "SWTW?REQBQ]hD3]MSmp[n]Ze4Tf>hpx?UCWYvr0jjQiJFTSWGniFTSWGq?sYTuXmVix1sCXmSWFxLRhUn_QRaUn_QgNei",
  "f8eiw9eiqAeiRhhWSG^Bb^:1hWRaQCFSrUGR]ik^BRUik^BX?o8Rh_bR4Ra_bR4_4Tsr]XZ6U;FkxaLb^QAx13[knIZhrR",
  "k8gF4w<Wr]7@UuQiX4_Wn9[3V90jjX;^mQDafZ4Vv^mQDafZ4TNRgSewpx7:Rax7:RhQCSc:RaQCSc:hzbci3bcneQMV]",
  "i2QMV]nf^:p0^:e4pqa^pqw9hYqAhYRhRQ]gRaRQ]gRhQP=QP4RaQP=QP4Rhje?V]Raje?V]gNQl:f8Ql:RhQqSd:RaQqSd:",
  "RhI6RaI6ts6sD6gN_Vf8_VRh8Ra8RhnMRanMRhm=Ram=e4ATza^ATzRhRE7RaRE7Rh?:Ra?:RhQ=6RaQ=6RhYa6RaYa6yZ_V",
  "yb_VRh_A7Ra_A7RhX:T2QrjroHRaX:T2QrjroHRhrjsiRarjsil<[axrXyV0=^:i1[axrXyV0=^:RhX:T2QrDWpQl:",
  "RaX:T2QrDWpQl:RhX:T2QrDTn6RaX:T2QrDTn6l<[axrXyS1Tn6i1[axrXyS1Tn6Rhrj_A7Rarj_A7e4SqnMa^SqnM",
  "l<[bg5nBi1[bg5nBRhhkQSnBRahkQSnBRhrjaNRarjaNRhUSpgUTV0LnBRaUSpgUTV0LnBRhX:T2QrjrTY6RaX:T2QrjrTY6",
  "RhrjTY6RarjTY6RhrjR=RarjR=q?MrsQsR=niMrsQsR=RhrjnBRarjnBRhrjRQQfRarjRQQfRhhk^ARrlwRahk^ARrlw",
  "RhhkcOnHRahkcOnHRhhkQSVxTzRahkQSVxTzRh]eQ?RoaRQSVxTzRa]eQ?RoaRQSVxTzRh]eQ?RoaRhH6Ra]eQ?RoaRhH6",
  "Rh]eQ?RoaRTnn[Ra]eQ?RoaRTnn[Rh]eQ?RoaRQVgdRa]eQ?RoaRQVgdQwXGWpc=RmStm=S9Stm=<RE?R8O[eXCm=RxrGm=",
  "Y?UTjVATzl<[axrXyvEnBi1[axrXyvEnBl<[axrXyV0ERrlwi1[axrXyV0ERrlwQga3Q?StSn<DRcQnV1S3DT]3YWrL",
  "RhR0RQRcV0LnBRaR0RQRcV0LnBqs2]eQ?RoaRiF3pYQahn3QRpYQahn3RPbpznT][ynRTwg;ttXhQXDS:kwznT]",
  "0WHrnaRUuQiTQS[TQUXTQU:SA3SHX?TvVvSHSWTQ3TvSsTQbyOSGTQS=SZ3SATuSZVvpfm]4RiTQSWSZ3W=TupfSspfUXHTQ",
  "aBSZe<TvTfHTvTfTQZBWqTfWqTfpfgTTQZBHTQ3RQ4u>3Vx4Xa4WeSZ3S:4TdV:V>qsRjSHpHQ]v?TmT4QiTLSU>U7SUW[R4",
  "SUlZSUTmHR4SPQNKTDRt>RzISa[qX4SU>X4SUYISUUZR4SUUZR6SUUZQ<R4u<RkSU[?SUiPRe?QOg4;[qR1SUUSHR4SU_P",
  "SPQNKTDRt>RzISa[qR4Re?QOg4;[qR4SUcoR4SUTrSUUSR4Re?QOg4aEUSR4SUiQRe?QOg4;[qUYSU6SUl]R4",
  "QuRQEEX3[qyHRe?QOg4;[qyHSUTbSU^_SUTQRe?QOg4aETmV>V:^8SUXSyzSUSZSURNQ0SUTmR4Re?QOg4aETmR4",
  "QuPTDPTmR4SU>OSUS3OSUZESUX9SU>UBSURtR4SUSmQfSU>V9SUaISUbHSU>Y4[eQDRDQLROQa[qY4SUl]Y4SU4qN",
  "lYcKn9QqxAul^DQw=VhX2UNQ=Q;QggveC_@T]e2QPARgvEq<SC:_n:e6:<of<S::5R0:ReofNofgP:^OofS4dvQ_ofSvof",
  "tu:RZQp:TkofUmofNS::S9S::tv:a?W5a?^Za?hua?[d>Q;dbYk7Yk6YkTrYkU[Yk4Yk8TdNB:NB7NB6NBTrNBU[N__NB8",
  "Td_H:_H7_H6_HTr_HU[_H4_H8TdNBR=yi7yi6NBdINY^4yi4yi8TdW1TLW1P7W1n[W1PTrW1q;W1k5W1h3TdRxTLRxP7Rxn[",
  "RxPTrRxq;Rxk5Rxh3TdYbTLYbP7Ybn[YbPTrYbq;Ybk5Ybh3TdS4TLS4P7S4n[S4PTrS4q;S4k5S4h3dizhB^LrNigss3RY",
  "UXUdU:4VvUdVv4fd3[CU;Qj3SHX>nv3T]U;OSW4ddSWa8TfUdf?e<BR=Sgm3U;SK]gp5W_4U:Q>QNV9SGQQVmVZT4y>V:X9",
  "uJuEoo:UaQn@RIn^S[vFuEooKvF]PRrQLQSb;Q]Y7gG]yT]T;^IQSb;Q]Y7gG]yT]e3Wwb;Q]Y7RGZ9^[Wwb;Q]Y7RGZ9",
  "ZMS<^IQSb;Q]Y7RGZ9]PS<^IQSb;Q]Y7RGZ90iqaSRyQqgG]yT]2g3aSRyQqgG]yT]0g3RwiTxtgG]yT]ZMRwiTxtRGZ9",
  "]PRwiTxtRGZ90f2VS_OZMiqQkR5RBQQZ9]PiqQkR5RBQQZ90VSQnQXAQ_BQXQQrLmMTmVZo]0R2_TVhTmVZo]",
  "ovR2_TVhTmVZo]0b1RyRJS3VKSM0g3CbJWI]?iSQX:]jiSQX:0g3mAn5fXpsRTQclvSH0[_aSR8K^8UsQMIRl^vaL0lvbL[B",
  "0VYRzFtWZMnIVhQlHQzbpaJ]PnIVhQlHQzbpaJ0VYRz[YS[SyZMizFRTTsRd]PizFRTTsRdw6SpVpZ9]wVpZ90iYSpVpZ9",
  "]wVpZ9e3WwARzQDV^Qo?Z9^[WwARzQDV^Qo?Z9ZMTSc_]PTSc_0eZYETwTgm<0TwTgYEeZm<SXrooZTgm<0fKTgYiovhn",
  "s<ZL0ZhU1QfUfQXeKVhX2YdXwySr90iqXwtr[GWjg5xP^MTmEQNx0ibaeaqibaeySg0ET]w6VpmiRGSo0mGSFcOZE",
  "0y8SFcOZESX@QUVmX[S1iF0X7QSAUKdFUfvGvQVtc[TNRFSdWgfXlvSHovr9fXTtMirr@Q:;l2^MS3UnSpRLjuV>",
  "0esQSSYxqRBQQUN0[_TtWpaHPYhXaQ[WpaHPLSESn0TtWpaHPYhSRrSXw0esQSq4Qsr90S<^IQSrk0bsg0ET]0U5U2Q_r9",
  "mMTmX[V1YiUs[<@V1=grSmV1YiTNWMksRPbpznT]TNtYDSmcbFSrxCWG3SpxCWG0Q]nPaRRp[HT^0U5U2Q_oXw7e3rvVTXm",
  "^[rvVTXme3rvn=esUL^[rvn=esULw6_bSpc_aqc_0iY_bSpc_aqc_0psRTQclvSHY[RXBQ>VPQz^SQ_Qha4X9NJWiUE",
  "<XPQQQYTl[W^^S9[]SA5lg[eKSMl=WiQcTl[W5fGQR^dbYTb]aTl[Wl>QcTl[W^^_p<Q?US45SwYI<VJjzTl[W5]UQaTl[W",
  "STUwS_XSTdNS:L4<W=_nSAsG>UB_nQPT]NAQCTsATQSRXu;Tl[WS8Rc4S9cS;Tl[WqLT7ifVpUMQhQcRwR;R1NSftuSh",
  "TkUZ45aKQa_fSCUBTJk5<DRcVkTl[WSPuo8<TsR1NkTWiRWdETsR1GYlTl[W^^_pbVQBR4gQdlcLQjTJ[d5TpR6",
  "SPQASYT4Tl[WbVX9RmQX@SZS4QzamTl[W^^ReQWT]NSCQPWhWkQaTl[WNkTWiRWeK4qLT7ifvD[UV>NkTWiRWQ<[0=XPR4",
  "Ri_?RdS8CY6wABQOQfqLT7WiRWQ<QVQMR1SRQMVPTl[WNQnRkwAETpR6T3ZfTl[WwAJimUXSm4_nd6Tl[WcLTvSPJ][",
  "wA@zTQsQLZ_T]3jkXaQRR6SgJRkTJc>Tl[W^^wA=X95rJwATYa8SPTlS4S:QBQfwA[uR4S[RcR6RiQMQf",
  "qLT7WiRWQ<QVSJQfV:RDJSfwAQ=R8ShTko9W4wAW4Tko9VKCUBwAVKCUBTko9Q<ipSAwAQ<ipSAReR<vgTko9juvgwAjuvg",
  "r:LRrQEStQz^SQ_TlT3UJ5Xw<hf<XPQQR65UGZ5T3AR6RmTQw=EO5QUb:[Teb;lgNU@Q05S14[eKSM5_Dlgl=Wi4S9QbT]",
  "SRVZQ0<RySAaq_DlgSTScR^glfQvqp45fGQR^dbYTbNJWiUES9WYQCSm4QuXQTvRmWcUB5glfQvqTJQOUB<BS:JSZS48",
  "RiTtJRkTJQCQUU^SPiiSRQkTQmSTsR6e6jqycaL<QxQ0l>4NQXDa8<b8Zw_nR;RETvS_ARPQ0SRQXR15QQSLRDUEReR<KTQ",
  "RZQARk<^VSwYIT;RuBJWiUET3VWQSRweSk:VOO<TRQfSPSf<VJZwSPcavg<T6T:5nCSTQMKQNR6tugwSTUwSP^vaLS_XS",
  "<B]7QfmQDDT]QuQE4<Ti4GY6<W=<bH_nSAReQh4W6Uc<@UOsG>UBSR=QlSAtuTnY6NR:QO4S8XFNJTQ<T6^_SRXuQ0S8Rc4",
  "NQqVES8Z_T]d9RKSTx7UMQhQcRwR;R1<cy4S8^8NSftuShS9R8Q=tSR6TkUZ4RmRDSAb?SM<QD=T^T3Wi45SY4S8ARDR6",
  "5aKQa_fSCUBV@RbQ?rDT;Ru@UrSRT54<LTvRZ]cTJk5<a4SZ5Sl<@Tl<DRcZcReQzUcS4QzTvN>RY<@UwSPuo8S_S14<TsR1",
  "TkSZGT^gQdlS8=Z_T]5TpR65UwS9JSfTJSZSPQAk1bVX9RmQRR5b:<RDUE5RNWCRmQX@SZReVW][5RgRya85R0X9<iuDU^",
  "NTpgwS4QzQBOReQWT]5fOXPQfSPSCCR6SRQMVPglfQvqNSCQPWhWkQf<U[[UV><a4XPR4SzsjRk^]TQS9iiSPUZET]<_?Rd",
  "^>R6S_W=S8CY65R0Q<RkNQOQfSPQnb:RmWMU^SRQMR1NQnRkSRUJRZR5q2?]cSzTsgq4S4TpR6T3imS4Sm4_nR;R6<QqRY",
  "<^VREAc]KRcR6cLTvSPJ][SRQAimS8]Gw=Z_T]RezTQsQLZ_T]w=hZ<tSR65jkSRQRR6S8JRkTJX95rJS8ip^vQf[Ua8SPTl",
  "Rec?^5hcS8UW<RtWYQ=S1AQMQVUJN>SdQ<QASAS4S:QBQfS8]cSPRcR6<QMQfsGT]SRSJQfa=IT:SURDJSfRmTsg@SP^g",
  "5SFKR8ScQNRkS8R8ShReWYRyR6RZQAWgcLQfgPa8TJQCSHRe_AUBRZipSAReR<vgS8JUe4Q2srpjV0RzWr]7RGRsjd;b4W8",
  "RjR0TAVKXl3SpVKYdR[W8RjR0TAVKYdR[U8SgZ?QSR<R8R;R6RiR<tXQ=]Ymh9U89Z09cJZ0QGW89[NZ03f0AR6c;QwD]Gtr",
  "tt^MQnVKUNtkQlzSQcQRQ<SYTEQMSNSxR_Uv0pjV0AQZ^DQgfQR^Yih8X^ZMoK]PoKZMTSoK]PTSoKZMzk]Pzke3mCzk",
  "^[mCzkZMeIYWSehrZ9]PeIYWSehrZ9j5_hQ_Yi0WHREUNZMrz]Prze3mCYWSehrZ9^[mCYWSehrZ9e3mCrz^[mCrz",
  "e3@bETj]NaJ^[@bETj]NaJUf>TAxHovTSDpyQcl2fXDpyQcl20nITSDpyQcl2j5_hQ_I]yfhj4RrQFS:?TnotQ_TlZ5ZNZk",
  "Zj[V[g[T[f0pjV0grRDkOYi2caR^bPYi2RzVhUIbPYi2QUQZR^bPYij4zWuXTgbPYiaoTgbPYiUfaHSaxHs<L_;Qha4c>Yi",
  "XarShtS1ztYiSG_tcJg;XarShtS1ztI_tcJg;SG_t[Ng;hxRy_hQ_Yi0pjV0mDEVZT4]Lv>VSSSVhX2Uv",
  "j4RrQFS:?TnotQ_itnlUmjis<pjV0AQZ^DXJS3?UNmMQa^C^D0pjV0T?;haYR2VpSQrNo2dixcaV:f[]a6ZU]a7ZV]a4[S",
  "]a8]9]AZlRx6S46Rx7S47ynS44yoS48Yui:ytSv6<7Sv7wPSv4<8Sv8YvZWywRZ6]a@7Re7RZ7u9RZ4wSRZ8YtypG7wNyqZy",
  "ZiZPST6SP6S96ST7SP7S97k<SP4l?ST8SP8S98Z6wMRm7wLu5]aTLZY]aP7yz]ah3qNZXS_6S_7S_4ys<QxQV:aayywWu;",
  "GQ0Sz7]aYhSs4pHzhoaQTYexchtS1ztYi<SF^rhtS1ztYi0oaQTYexchtS1ztYiQwSF^rhtS1ztYi0xcAQZ^D",
  "WdCS1QsAQZ^D2fIT4PQX60oaQTYexcTSlvSH0oa_;aV:f[]a6ZU]a7ZV]a4[S]a8]9]AZlRx6S46Rx7S47ynS44yoS48Yui:",
  "ytSv6<7Sv7wPSv4<8Sv8YvZWywRZ6]a@7Re7RZ7u9RZ4wSRZ8YtypG7wNyqZyZiZPST6SP6S96ST7SP7S97k<SP4l?ST8SP8",
  "S98Z6wMRm7wLu5]aTLZY]aP7yz]ah3qNZXS_6S_7S_4ys<QxQV:aayywWu;GQ0Sz7]aYhSs4a@Sz65RYSz8XhUiXw",
  "0oaQTYexcb8vPztYi0oa_;AQZ^DWdCS1QsAQZ^D2fIT4cZWZkbR0]tT<SkQiU7S9Q05QjS8Q05R65QfGQ05RdS4Q05R15R4",
  "TkQ05UY5RKSvR4NR4<R4S_Q0SvQ0NQ0<Q0f[]9[STJR4e8TJ6eaUt75TQ5SH5^85fJ5T]ZUZVYZ7SzQ0GShS4V>YZR4Ut[Y",
  "GV>diHzWq[b2bBb2RxrT[mf:W=p3fzp3cD5ccbBccS_jg]_b2]_po]_a5]_[mS_ZGY=kp]_va]_cDRmihS9RWV?bBa5d<[m",
  "V@WIbB[mh:]^NcvbBfzN]KaLRx]KblUmkpnolzwGR4f[Qu4ZYSUY2TJ8[SSUlpSU4]9aaSRY2Ut4qNZVSRlpwWyyyzTJ7SU6",
  "ZU[ytDTe2X;gDvTp3ccp3[mj<fmsk]_LrT[m]_cc]_D_z[m]_Dsk]_T@QXQRcDsKa5sK[mj;fmsku4pod<b2d<ccd<rtb2",
  "d<rtccd<fzS9YqY=kpu4a5u4vea5dcb2dcvTdcccdca5dcfzS9skbBRW]^wX]^wXmH[mwX[ofmsku4vabBcDu<QXQRcDnqTL",
  "nqPY2nq6qOT@8qOk5qO6qBZo:qBZoY2dipjV0QTVJRERGXtQRvLYi5y0YidaYi5ixUNf]YiykUNReRgUNRmUiYi5cUUN",
  "S8RcdYYi<XPQQQYYiyvQYYiykQPUN5UAQUUNTJQOQPUNRmQTUNs7]tT<SkQiuuSv6Tk6S47qC5QUV>qJ5QQV>5hc5QTV>",
  "ycV>5R;V>YZQj]xShQuQRV>QuR;V>QuQjUtQj5imycQ?V>[y]5QiT:gRh<j?VqER4T3R4SvRk[y]5QiShVqEVERxVEUt4",
  "QuR4TNQ>LcQQfSRShYbShSPQESh<VESTQFY4STQFShSTT:STQFQDSh<QFQDShSTQFQfSTyIT:STDQDShSTQFVESTyIY4GQ0",
  "5R4<Q0S9Q0<T:5R6STY4STSh<Y4<QDY4<Qf<ShS9R6S9Y4ReV><QFY4<QDShi6QDShSTyIQFShS9Sh5UYr:oa_;aVL7Ri6",
  "Ri7SW8uFddWe6We7u>We8w[deVi6Vi7Vi4Vi8mMZrUgQFQsHzWWp_df:W=5ccS_jgRmihS9RWV?V@WIh:]^NcvN]KaL",
  "Rx]KblUmkpnolzwGR4Rx[hVP:j<hD5]iQa:S_ZGhDj;hDS9RWW9:V@CQo:h:[ohDNU?BhDN]KBT4:Rx]KLT4:UmU?XE:",
  "noYqT4:wGT4:NU?B;7apQX=r2jd;CXpSA3Sk_RTd2AYKVZT4TlZ5ZNZkZj[V[g[T[fp4_nSAS8Rc4SRXuQ0SR_AR6bV@Tb",
  "TJQOUB<W=<VKUc^5RY<WbRWX6GSq4<DXPATbS8QRiSATbNQQU4Y7rVW6Kgw^>DXdUrNc?<Y7Q<Rk<k0yE45QUQZDca4",
  "5XdTK__5QtaR__S8SLQ]QCTb5m@<RDUE^>RtR4hxAYKVZT4d1YORxQRzlEQOit<BTRRdRxCWZh8@UlQQuU5ZvSaQQuU",
  "yva:QQuU5R2a:QQuUS8Wia:QQuUmWa:QQuU<oWSaQQuUqDa:QQuUmMy6[]VxDSohxQ?]]ZvSaTl[W^^_paud@d?d=d>Umji",
  "i;[W^^_paundzWWp_df:W=5ccS_jgRmihS9RWV?V@WIh:]^NcvN]KaLRx]KblUmkpnolzwGR4Rx[hVP:j<hD5]iQa:S_ZGhD",
  "j;hDS9RWW9:V@CQo:h:[ohDNU?BhDN]KBT4:Rx]KLT4:UmU?XE:noYqT4:wGT4:apQX=r2jdRs[5L8ZB?Uk6ndzW;RW[o;7",
  "h6QX=QTSNSxR_UvhxAYKVZT4TlZ5ZNZkZj[V[g[T[fp4_nSAS8Rc4SRXuQ0SR_AR6bV@TbTJQOUB<W=<VKUc^5RY<WbRWX6",
  "GSq4<DXPATbS8QRiSATbNQQU4Y7rVW6KgwbYV7Qfi7SMS8SF>SM<?QnW[SMu0BRDYWQfS9inQfQuYNQUYO5Qnbf5m@NRgRk",
  "NQXZ3QfsIQ0NYm4T3Sf5Z05W85U5BUJ^>JQW_c<Y7Q<Rk<k0yE45QUQZDca45XdTK__5QtaR__GUWh8bqcbQScEd?d=d>5t7",
  "i;[W^^_paud@d?d=d>S8jh0pjV0mDEX[lKfLQ>QT?QORk^?=KrqQORk_M]2R41QlWYRd1[8Rk1Q>R;41Q>SdRkz7[xSYQf",
  "Vfj^@SFKT]1WbVKKT]1VJb>KT]1RzBSFKT]q=HSh2QNSh2U2Q00JUTQnQsXUW[TsQnPSohxoa_;:ZUZV[S]9]ARx6Rx7ynyo",
  "Yuyt<7wP<8YvywRe7u9wSYtypG7wNyqZyST6ST7k<ST8Z6wMRm7wLu5ZYyzqNZXS_6S_7S_4ysaayywWu;",
  "q=QNSEQ?SqQcQhAW52Ql>r72QO?aQ:2QTa4:owQO72QRQv72QRl72?SA2SLZ>?hp82=eMTr2^272CQk72ZdRc6apQOSmWZ",
  "apQOQXV;j7^cj7QTTzj7QW:j7Tx6apPR<V;j7RchpTrapRc8apAR8EY3I7apRc^F=SI7apRcQbSmWZj7Y3I7j7Y3IUeSA",
  "apR<?QF=Rc8ap?R8Tlap=SL7apQXR;:apCRg8Qw>bNR<7QwpUUT7QwRcQv7QwdHQ0QwUq82VHS372Rz_VbUQX72@SAYHzU",
  "2kxWZ2RQQn7Y9>S3Uq8Y9>Sm72^nQOv:Y9AS3?SI7Y9bNR<7Y9bN8fYRc72aQQOUZQ<82aQAQn8fYSYQBPv:ndR<TQ",
  "2QyL?REQO7Y9SL8Y9QUA[DndQNUe7Y9QUQB7Y9=zp6fY=^02U1WZfYQXUe8ndSAY9QQQ<82S:QX72S:SAXh>bNR<8Xhx47",
  "XhcoR=XhQOZ>7XhiTPSAXhbNR<SAXhRc6XhRcA^nQO72ROTy2ROESmSA2RO=SI72[qUZ82[qQO72P?TQ2QAQnSI72QARc:",
  "2m>V;2rqRoR<72QhI72QAUqVmSHa<SmWZ0pjV0mDEX[lKfLS:R<;X^9Tl9UP9VL9Q=VF9ia9RBRKkMW49=UWp>UJ9it",
  "9=grSH9f5RY9bq]Z9rE]Z9v@]Z9RBQE]ZkMv=]Z9]p]Zp>QR=]Z9btz;Tlz;UPz;VLz;Q=VFq=H[w2V]2gd2WG2CV9Y9Uj",
  "bUQj<xxNRoXT2A72QNSEQ?SqQcQyR5=6RiPWcW5_4R5PpqjATh6QgQXDQX^dY9SESqDO2VIXhXC:2Tz2YhapU7XhU7j7U7",
  "QgTbapBTbY9UEYHUEXh?SQQ0S4Q0XhShapShndY42YaY4XhHY4j7HY42QPY4XhXCRdXhRdbURdapRd[yQjYHQjXhXCQjXhQj",
  "QgQjapQjXhIZnXTQgIZnXTXhZnXTapIZnXTXhIRsRoXTQgIRsRoXTXhRsRoXTapIRsRoXTXh;U@avVfxxY9:ap[wXh[wj7[w",
  "2QzR65U@avVfxxY9OYHOXh?avXhOY9V9YHV9XhXCV9XhV9apV9XhQC;ROTyY9VEYHVEXh?QVQ0XhVEapVEXhQD;ROTy",
  "2VPCHQjXh;CHQj2^_fYUYQgUjQgR6Qg;U@WpShQg8bUU7j7Rk2R=ndT:2TvapR1apIRsRFTbapQf2JQj2JV>2SCSh2JRK",
  "XhKc2XhWqcKRdY9R4Y9QjY9DQjY9TeQwTeQwV9a<U7Wd;YEQj2SEYEQj0pjV0mDEX[lKfLVHSaTl9UP9VL9Q=VF9ia9RBRK",
  "kMW49=UWp>UJ9it9=grSH9f5RY9bq]Z9rE]Z9v@]Z9RBQE]ZkMv=]Z9]p]Zp>QR=]Z9btz;Tlz;UPz;VLz;Q=VFz;ia",
  "9jyhLRK9jy_8W4z;=UWz;Q?UJ9bqX69bqy=Tlq=ETbQ2Q:BsbQyQETmd3;fLnTV7>jwUASH3Z3j^jwi]UB",
  "mQi_S1Sda:c>nTKg4QRQ?U^SUWcQPQ=SdSQTpJRkSR>QnU^NQQQ=cyQfUmQcsoRkj8JxKVKWHQPT]]aREIU^ReQhUZU^",
  "S9=]G<@SxQBVYRdS8RDTtQBVxT:sHc>l0QBSLq1_nRzQBX65Zr?RBS3QjS8TpTtU^SRQXVPV6nTRzB>T@R65x=RtR4",
  "NU6p]rVSPQnR^omR4S4Qz__<T7QnUIQlQOQf^>juV>ycVJBzusHc>REIU^RmWcQPq_oVsHc>DQhDQQzlQT__",
  "UmQcW[n]IQMQVXuQ0TfJQvR^Q=Rc4ycQ=kuzuRZY3YO^>q3X9sHc>DQbT]S9R8V3QBORZ]yQUR^VjnTg?UmQcQ=SqTsRk",
  "5RgxtYOUtKoj[QYORZRDARPQT__sGV7S34ycV7S34SPQhUSomR4NQkR^Y0ROT^S4Z_QNR^VKWHQPT]S9mIR^RLQDae",
  "5pvXdq1Umr>RDRd^>QCTp?YOUmcC>SdQ<QASA3QOCSYR^QPTcT]Ss=j^nGVYJdfR;RETvRZU2RDRgIUrUmp[RNPR^[8ScSH",
  "QuKTcQT__Umr>SxQNT]UXUqQLQVQRR6ZBCPCV1QqL4RZR5Vdq1T3UTQn^dycQ?TDRw?UB]aDQhDQQzlQT__",
  "QuQ=QZRsR:QLYO^]R2cCR:QLYOQ6Q3S]RXPAQSq<ZcYZRKZUYZT:h:Qf5cXYZ45dLQuQfQuRKf[5XSVCZIVC8VCUOUtQf",
  "UtRK]95UOTJRK[SYZQZ^DbFSR7SPZcSPcESP6SPdqSPlySPcXSP^:SPdLSPX9SPl[ZiSPXSSPcdSPbTSPe05R0Qf5lgSP8",
  "5R0T:^]RKSP4^]T:SPZwSP^JSP7SPV?SPb=SPXFSPfVSPh4SPRkSPgISPj3SPgJS9ZcS9cES96S9dqS9cXS9^:S9dLS9X9",
  "S9l[ZPS9XSS9cdS9bTS9e0tvQftvRKS98S9UOS9ZwS9^JS97S9V?S9b=S9XFS9fVS9h4S9RkS9gIS9j3S9gJarZcarcEar6",
  "ardqarlyarcXar^:ardLarX9SP^nRKar:arXSSP[sZISP[s8SP[sUOSPR0QfSPlgar8SPR0T:ari^ar4ardlarZwSP[sRK",
  "ar7arV?arb=arXFarfVarh4arRkargIi8Zci8cEi86i8dqi8cXi8^:i8dLi8X9G^nRKGeHi8XSGR0QfGlgi88GR0T:i8Zw",
  "G[sRKi87i8V?i8b=i8XFi8fVi8h4i8Rki8gIi8j3i8gJecZceccEec6ecdqeccXec^:ecdLecX9ST[8RKSTTzecXSeccd",
  "ecbTece0STU_QfSTU_RKec8ecUOecZwec^Jec7ecV?ecb=ecXFech4ecRkecgIecj3ecgJRmZcRmcEwMRmdqRmcXRm^:RmdL",
  "RmX9i7RKZ6RmXSRmy@RmcdRmbTRme0RmY6RmZIu5RmUObVRKwLRmZwRm^JRm7RmV?Rmb=RmXFRmfVRmh4RmRkRmgIS8Zc",
  "S8cES86S8dqS8X9S8l[mTS8XSS8ZIS88S8UOS8ZwS8^JS87S8V?S8b=S8XFS8fVS8h4S8RkS8gISzZcSzcESz6SzdqSzly",
  "SzcXSz^:SzdLSzX9Szl[a@SzXSSzY6SzZISz8SzUOSzi^SzdlSzZwSz^JSz7SzV?Szb=SzXFSzfVSzh4SzRkSzgISzj3SzgJ",
  "mQQfmQRKRZ6mQT:mQi^mQ4mQdlRZX9RZl[ZWRZXSRZcdRZbT5XwtuRKRZ8tuT:RZi^RZ4RZdlRZZwRZ^JRZ7RZV?RZb=RZXF",
  "b?Qfb?RKywb?T:b?i^b?4b?dl[eQf[eRKYvReXSRey@RecdRebTRee0ReY6ReZIwSReUORei^u9RedlReZwRe^JRe7ReV?",
  "Reb=ReXFRZRJQfRZRJRKZ@6RZRJT:RZRJi^RZRJ4RZRJdlRZVHQfRZVHRKa_Z@XSZ@cdZ@bTZ@e0RZXwRZQpRKZ@8RZQpT:",
  "RZRzRKRZVzRZRzT:Z@ZwZ@^JZ@7Z@V?Z@b=Z@XFGRJQfGRJRKGxJGRJT:GRJi^GRJ4GVHQfGVHRKGV]GQ<XSGXwGQpRKGQ<8",
  "GQpT:GRzRKGVzGRzT:GQ<ZwGQ<^JG_xGQ<V?GQ<b=GQ<XFqFZcqFcEqF6qFdqqFlyqFcXqF^:qFdLqFX9ST]XRKSTVIqFXS",
  "qFcdqFbTSTVJQfSTVJRKqFUOSTb6RKqF4STb6T:qFZwGZcGcEypGdqGcXG^:GdLGl[YtGXSasZIas8asUOGY6GZIyqGUOGi^",
  "wNGdlGZwG^JG7GV?Gb=GXFSTXUQfSTXURKqE6STXUT:qEcXSTXU4qEdLSTQqQfSTQqRKSTV[qEXSqEcdqEbTqEe0STSCRK",
  "SThdqEUOSTQLRKSTSMSTQLT:qEZwqE^JqE7qEV?qEb=qEXFSTZHQfSTZHRKqERkSTZHT:STZHQARKSTZHTeT3ZcT3cET36",
  "T3dqT3lyT3cXT3^:T3dLW6QfW6RKZAT3XST3y@T3cdT3bTT3e0i4Qfi4RKT38T3UOw=RK5SMw=T:T3ZwT3^JT37T3V?T3b=",
  "T3XFT3fVT3h4T3RkT3gIT3j3T3gJS4ZcS4cES46S4dqS4lyS4cXS4^:S4dLS4X9S4l[ZlS4XSS4y@S4cdS4bTS4e0S4Y6",
  "S4ZIS48S4UOS4T^S4i^S44S4dlS4ZwS4^JS47S4V?S4b=S4XFRxZcRxcERx6RxdqRxcXRx^:RxdLRxX9Rxl[]ARxXSRxcd",
  "RxbTRxe0RxY6RxZIyoRxUORxT^Rxi^ynRxdlRxZwRx^JRx7RxV?Rxb=RxXFa?Zca?cEa?6a?cXa?^:a?dLa?X9S4XQRKS4Ty",
  "a?XSa?y@a?cda?bTa?e0a?Y6a?ZIa?8a?UOa?T^S4WHRKa?4S4WHT:a?Zwa?^Ja?7a?V?a?b=a?XFf_cXf_^:f_X9RmXQRK",
  "RmTyf_XSf_cdf_bTf_e0f_Y6f_ZIf_8f_UORmWHRKf_4RmWHT:f_Zwf_^Jf_7f_V?f_b=f_XFSTXeQfSTXeRKi66STXeT:",
  "i6lyi6cXSTXe4i6dLi6X9i6l[i6:i6XSi6y@i6cdi6bTi6e0i6Y6i6ZIi68i6UOi6i^i64i6dl]xcX]x^:]xdL]xX9GXQRK",
  "]B]xXS]xy@]xcd]xbT]xY6]xZI]x8]xUOGWHRK]x4GWHT:STZcSTcXST^:^5Qf^5RKZySTXSSTy@STcdSTbTSTe0j8Qfj8RK",
  "ST8STUOa=RKk<a=T:SRX9SRl[aaSRXSSRcdSRbTSRe0SRZIu;SRUOSRi^wWSRdlSvZcSvcESv6SvdqSvcXSv^:SvdLSvX9",
  "Svl[i:SvXSSvcdSvbTSve0SvY6SvZISv8SvUOSvi^Sv4SvdlSvZwSv^JSv7SvV?Svb=SvXFSvfVSvh4SvRkSvgISvj3SvgJ",
  "NZcNcEN6NdqNlyNcXN^:NdLNX9Nl[]kNXSNcdNbTNe0NY6NZIN8NUONi^N4NdlNZwN^JN7NV?Nb=NXFNfVNh4NRkNgINj3",
  "NgJ_HZc_HcE_H6_Hdq_Hly_HcX_H^:_HdL_HX9_Hl[_H:_HXS_HZI_H8_HUO_Hi^_H4_Hdl_H^J_H7_HV?_Hb=_HXF_HfV",
  "_Hh4_HRk_HgI_Hj3_HgJe:Zce:cEe:6e:dqe:cXe:^:e:dLe:X9e:l[Gd8e:XSe:cde:bTe:ZIe:UOe:i^e:4e:^Je:7e:V?",
  "e:b=e:XFe:fVe:h4e:Rke:gIe:j3e:gJV@Qf[VytV@T:<cXV@4<dL<X9<l[Yu<XS<cd<bT<e0<Y6<ZI<8<UObYRKwPbYT:",
  "<Zw<^J<7<V?<b=<XF<fV<h4<Rk<gI<j3<gJ<RBQf<RBRKYk6<RBT:<RBi^<RB4<RBdlYkX9Ykl[dbYkXSYkY6YkZIYk8YkUO",
  "Yki^Yk4YkdlYkZwYk^JYk7YkV?YkfVYkh4YkRkYkgIYkj3YkgJSvRQQfSvRQRKSvR=SvHXSSvaQZISvaQ8SvaQUOSvS:Qf",
  "SvS:RKSvZ:SvHUOSvQyQfSvQyRKSvUdSvQyT:SvHZwSvH^JSv_RSvHV?SvHb=SvHXFSvb1QfSvb1RKSvHRkSvb1T:SvHj3",
  "Svb1TeNRQQfNRQRK^lmSXSNaQY6NaQZINaQ8NaQUONS:QfNS:RKNZ:mSUONQyQfNQyRKNUdNQyT:mS^JN_RmSV?mSb=mSXF",
  "Nb1QfNb1RKmSRkNb1T:mSj3Nb1TeS_QzRKqKS_QAcdS_QAbTS_R8QfS_R8RKS_m=S_R8T:S_QhQfS_QhRKS_l3S_QhT:",
  "S_QAZwS_QA^JS_QA7S_QAV?S_QAb=S_QAXFS_[aQfS_[aRKS_QARkS_[aT:S_[aQARKS_[aTeGQzQfGQzRKGYLGVZQ0GR8RK",
  "Gm=GR8T:GQhQfGQhRKGl3GQhT:GQAZwGQA^JGQA7GQAV?GQAb=GQAXFG[aQfG[aRKGQARkG[aT:G[aQARKG[aTeu7Qfu7RK",
  "_GY?XSY?cdY?bTY?e0<S:Qf<S:RKY?8Y?UOgQQfgQRK<UdgQT:Y?ZwY?^JY?7Y?V?Y?b=Y?XFY?fVY?h4Y?RkY?gIY?j3",
  "Y?gJcLQfcLRKZXS_XSS_cdS_bTS_e0e6Qfe6RKyse6T:^>RKS_4^>T:S_ZwS_^JS_7S_V?S_b=S_XFS_fVS_h4S_RkS_gI",
  "S_j3S_gJTkZcTkcETk6TkdqTklyTkcXTk^:TkdLTky@TkcdTkbTTke0TkY6TkZITk8TkUOTkZwTk^JTk7TkV?Tkb=TkXF",
  "TkfVTkh4TkRkTkgITkj3TkgJW1ZcW1cEW16W1dqW1lyW1cXW1^:W1dLnkY6nkZInk8nkUOW1Y6W1ZIW18W1UOnkQfnkRKW17",
  "W1V?W1b=W1XFW1fVW1h4W1RkW1gIW1j3W1gJcNZccNcEcN6cNdqcNlycNcXcN^:cNdLcNcdcNbTcNe0cNY6cNZIcN8cNUO",
  "cNZwcN^JcN7cNV?cNb=cNXFcNfVcNh4cNRkcNgIbXZcbXcEbX6bXdqbXlybXcXbX^:bXdLbXcdbXbTbXY6bXZIbX8bXUO",
  "bX^JbX7bXV?bXb=bXXFbXfVbXh4bXRkbXgIbXj3bXgJ^OZc^OcE^O6^Odq^Oly^OcX^O^:^OdL^Ocd^ObT^Oe0^OY6^OZI",
  "^O8^OUO^OZw^O^J^O7^OV?5XeQf5XeRKYb65XeT:YblyYbcX5Xe4YbdLYbcdYbbTYbY6YbZIYb8YbUOYbfVYbh4YbRkYbgI",
  "Ybj3YbgJSUZcSUcESU6SUdqSUlySUcXSU^:SUdLSUy@SUcdSUbTSUe0SUY6SUZIqNSUUOSUZwSU^JyzSUV?SUb=SUXFSUfV",
  "SUh4SURkSUgISUj3SUgJeB2Qz^SQ_Q@Y6T36RxZc^OdqNgIYk6a?UOS4dlwMSTXeQfT3gJarZwRmUOqNS9Zwi6bT[eQfZl",
  "SvV?NfVZ@XFSPXFa?bT^OUORe75UOcNZwSvY6S9fVec8SUZcSzXFY?RkSzdli:Tk8e:V?cNRkS4Y6cN^:u;RZ7Y?XFT3^:",
  "NRkNe0Ndqi6UOu7QfSvXFY?UONUd_Hlyi8^:ynx3JR5XCQieHZP_XZWYv_2Zl]A_1]:]k^lRZd8wTj>R=Z6YtZAYuSvR=i:",
  "]BZyYb:STR=mTaa_GZYbAf[Qu4[STJ7ZU]9ZVVC4VCR4Ut4ReTwIvul7S=SED8SG[qRsTLY:81VI1Xp7mPz?S8^=",
  "0]>AQSq<U[TJSHa=4SRU[SR=SHS9U[SPeQSPU[RmKU[RxDU[f_KU[S4KU[S8U[SzU[ReU[UmU[RZeQRZHeQw=4^>4RZU[",
  "GRz4<U[<eQSvU[SveQNU[TkU[bXU[SUU[RxU[]xEU[S4U[bV4GU[Gq;ZU5TvST6STTvyySRTvS96SP[DSP6RmzeRxnMf_ze",
  "S4zeS86Sz6ywUm6RZ[DRZH[DT36S_6RZ6GxJytY?6Sv6Sv[DN6Tk6bX6SU6Rx6]xE6S46wMyp^O6f[5TQ]xTQZySTTQaa",
  "SRTQZPbWZiRmeHRx[wRxDTQf_eHS4eHmTa@Yv_2b@RZHR=ZAZXZWGV]Yu_Gi:SvR=]k]:bX:ZY]ARxTQ]xTyZlZ6Yt^6qJ",
  "UtSAj88SRW2SRrctv8SPt=5R08RmR08RxRy8f_R08S4R08S8W2SzW2ReW2UmW2RZt=RZHt=i48e68tu8GQp8<W2<t=SvW2",
  "Svt=NW2TkW2bXW2SUW2RxW2]xEW2S4W2RmW2GW2^OW2ZV5W=ST7STW=SR7SRW=S97SP_RSP7RmuuRxD7f_uuS4uuS87Sz7",
  "Re7Um7RZ_RRZH_RT37S_7RZ7G_x<7Y?7Sv7Sv_RN7Tk7bX7yzRx7]xE7S47Rm7G7^O7]95SA]xSAST8STSAu;SRSAS98SPZ:",
  "SP8RmK8RxD8f_K8S4K8S4KSAS88Sz8wSUm8RZZ:RZHZ:T38ysRZ8GQ<8<8Y?8Sv8SvZ:N8Tk8bX8qNyo]xE8S48u5yq^O8[S",
  "5SH]xSHk<STSHwWSRSHl?SPUdSP4RmssRxD4RxDSHf_ssS4ssS4KSHS845RYu9Um4RZUdRZHUd5SMS_4RZ4GVzwP<UdSv4",
  "SvUdN4Tk4G_eSU4yn]xpd]xESHS44S4SHwLwN^O4GSh5ewQUT]trttw7Qwq<Q?QpRIQ=:fdRiW2QwXGSQ=fJRx=fJReU^GV;",
  "SP^8S8Tr[e:RZ^8tuimRx]^ReimtuM8Tkim^z^NZ5ZNZkZj[V[g[T[fQwq<Q?QpRITzU:8Q2ueB^LTscywpQFSFJTL",
  "qASFJTLneQFRD8i2QFRD8RhYMQ<s6RaYMQ<s6RhdKTZRadKTZneQ>QNV9i2Q>QNV9RhgsVmVZT4y>RagsVmVZT4y>",
  "yWR8fFezy^R8fFeztspaPT]sDpaPT]ngQN[PiWaET]p1QN[PiWaET]RhvKPX9RavKPX9RhYMP7RaYMP7RhvK:RavK:",
  "l<bnczn^i1bnczn^yWYWQ<Qsn^y^YWQ<Qsn^RhvKBbnczn^RavKBbnczn^ngV>p1V>RhYM@a8RaYM@a8e4T<QaVza^T<QaVz",
  "e4T<Qa[Ca^T<Qa[Ce4T<Qabfa^T<QabfRhgsWb^K8RagsWb^K8RhXoWb^K8RaXoWb^K8RhTSgsWb^K8RaTSgsWb^K8",
  "VqIbuWb^K8TNa3B^LrNV0QCQFROQfReQURfTsXU^2SoSTV2QYc^XU^2SoUmCSYR[c^XU^2SoSXQqQCQQV0_<",
  "TNa3B^LrNigZ>QzTxUy^:WlV:6WfWeR_SoV:v:RiT<@So3ezRxaHPYhS9V^QNhjTN^LrNV0ZdQCPYhY9V^QNhjne[di2[d",
  "neQF[di2QF[dw9H[dqAH[dl<UC4i1UC4neQFs6i2QFs6RhT6flUGRaT6flUGRhR74RaR74Rhiv[dRaiv[dRhiva8Raiva8",
  "w8UC4sEUC4RhH[dRaH[de4H[da^H[dRhTS8RaTS8l<UzVe8i1UzVe8_Wn9B^LrNV0HR_SoRiT<@SoTNa3B^LrNig=UEuEoo4",
  "T[SqS7z=]AZVRx7qC^>4[e4]9^O6ZUZAZPS_V;S_o^w==U[bV=U[[e:GQ<TrbXuk5Qj<tdRm7Y?V;ytgQ^J<jbRxq;RxT^",
  "asY2G7bXnYSUppY?7SUvmZYGQBR=RxjbS9jbbXU[GT64S9][SR][S9U[S8U[S_7T37wMyp^>^JcL4RxSH]xLh0SH]xTy]B",
  "Y?8S9nYS87S8dPaaYtT36S96i4UYyoRmKSHS_SHRmSHZ6ywRx6u5RmKTrReT^Rx[wp4GY77<SqeHS8>SqY2Rxm8td",
  "RxVmS:QjQga3I_tcZQ@Q?Q<SASWZ>QDdHOYHQ>>SFvOttQga2trQwxPw7qyU_n9UCQRSLQcbPPQRYVU^nxRrYVU^nxQRhI^8",
  "nxRrhI^8nx[iQ@7nxRr;Q@7nx[iQA7nxRruT7u0a9Mxbg3bPWGsI;g3bPWGRmrKg3bPWGwJg3bPWGu0a9MnIg3bPWG",
  "u0a9Mxbg3^;y5qfsI;g3^;y5qfRmrKg3^;y5qfwJg3^;y5qfu0a9MnIg3^;y5qfu0a9Mxb^;y5qfsI;^;y5qfRmrK^;y5qf",
  "wJ^;y5qfu0a9MnI^;y5qf5Tgq:Rihf3]VWGf^TDSrjZTDn5cLR5QsW9Sl3^TSlU;QEeq^D3[_oXwJ[_oX<@XdQoR[_ao3",
  "1Tto30jjQig4j2VKkwoHRag4j2VKkwoHRhg4j2VKkwsiRag4j2VKkwsiRhHfJRaHfJw8Y4sEY4Rhq3VBhdRaq3VBhd",
  "l<nXTEJhdi1nXTEJhdl<nXTEJSCU<_Bi1nXTEJSCU<_Bk8UEfeRhTrRaTrs?8sC8RhgdRagds?V9sCV9RhaHF]VWG",
  "RaaHF]VWGRhbHRabHRhYMBf@RaYMBf@gNXmf8XmgNFxLf8FxLgNo4R[xLf8o4R[xLyWTWUlRdy^TWUlRdq?F_aULniF_aUL",
  "h7vPcQhlh9vPcQhlh7SCUOh9SCUORhW2RaW2yZo4omT4_Qybo4omT4_QyZFaOR<]cybFaOR<]cyZ^mRTRcQhdsZ4",
  "yb^mRTRcQhdsZ4RhQ@o4omT4_QRaQ@o4omT4_QRhQ@FxLRaQ@FxLs@;R8@Tc:q@;R8@Tc:s@S7;R8@Tc:q@S7;R8@Tc:",
  "RhQCFxLRaQCFxLRhQCRkRaQCRkRhyEQWCQPV0Y4RayEQWCQPV0Y4RhQPWMXmRaQPWMXmRhQPWMo4omT4_QRaQPWMo4omT4_Q",
  "RhQCQUR6RaQCQUR6RhT^RaT^RhrLRarLl<SAi1SA_Wn9Vn0rWQ<WgUaWgSGWgS=WgViWgk8QAWgsEWg3WgRhrQR6RarQR6",
  "RhfOhrSQQ0RafOhrSQQ0RhrQShb^rQShRagFrQShRhgFRdRagFRdRhrQTeRarQTeRhfOhravRafOhravRhrQQfRarQQf",
  "_Wn9Ttc1S7XYbINa2<^Vn<0jjX;QMVYhda^QMVYhdRhgFR4niF_gakR[bJQf2X;QRCkwXwtseisDeil<FWGi1FWG9dS3UndS",
  "yWFaOR<]cy^FaOR<]cRhQ=XmRaQ=XmRhQCTpQl?VPY2RaQCTpQl?VPY2RhQCTpQl?VPexRaQCTpQl?VPexRhQCTpQl?VP][",
  "RaQCTpQl?VP][hzzFi3zFgNzFf8zFtszFsDzFs@zFq@zFe4zFa^zFRhUnUGwYxoRiiZShUaFbJQfqX[36k8UYRhgFR1gW",
  "ZBU<[br@Z4uDS[^0y^^0RhezRaezRh?XmRa?XmhzdvQ_:i3dvQ_:hzdvQ_6i3dvQ_6hzdvQ_7i3dvQ_7Rh]eRyJks8",
  "Ra]eRyJks8RhRrcyupQVQ0RaRrcyupQVQ0l<jPRi^BVvjPU:^mTY@cQhli2^mTY@cQhle4^mTY@cQhla^^mTY@cQhl",
  "qsl<bnrQShi1bnrQShTdk@QPQXV>TdwfhvV>Rhr_QLQSBCivavRar_QLQSBCivave4QWU_Scava^QWU_ScavQ2qyU_n9[3Uj",
  "lCl@0jjQiYM_bR4RaYM_bR42j^QWX[V0X;ARzQDV^Qo6_Wn9[3HXm]adtex0ZS[idOgFQj2j^QWX[igYMUEhC3[_Qj",
  "3StJQQTy3uqQjSXPSCQ]TnTmQASt[6Wlk>cOyESD:w>7X_X>wRrHQTTZw>L8SsZ:UX8UXZ:wR^bw>B8TfZ:ZB8ZBZ:SWWZ",
  "SWQP8U:Q<8U:Q<Z:SW8XN8U:8U:Z:S=8Tu8TuZ:S[8S[Z:SG8Vi8Ua8Vim=Ri8We8sMVR:b_^@_51W2tv=RwPRfQOZ<S5",
  "SG]yXnSGQOZ<RqSGQOZ<S0wRhXrHQTTZpIguXEhaSQnRrmQ01g;gS]fO3QQTjg=t_UB]0QmUB3SwTjg=T6ZrO5]fUN",
  "S9QqcqS:JzlUNS_RL=QcYinkpUcbUNhUDRQESKDSEQiYh_1Zl]B]k^l]:^6Yv_2ZWYtZP_XZiZ6wTj>R=RZd8aaSvR=i:]a:",
  "ZYZXZA_GYuZyf[ZUZV[S]9W1:Yb:mTS4TyqCw<_@Qsik:fbVq@TZb[a_bx5hXTLSzCS1=X5y3R=SzCS1QsR=",
  "QuQBtUQzRuQ=:w<_@QsQiYLQwk0UUQEQsQiYLVqBeEQwcxphYiaophYiXh]ywu5eswuqyQB>Y3Zua9VR^bf<nhe_ZUe5ZVf;",
  "mXz5_Ynt[SqCe8]9qJea]A_1ZlbA]B]k^l]:e9^6bZb[a_d;bxYv_2ZWb@YtZP_XZibWZ6ZYZXZAa@_GdbYuZynn",
  "s>VRRQQO7d_WlaAWfabjFkLc0p=X_me_KX>mZb]oyNeEQ:Q;w:w;^z^NZ5ZNZkZj[V[g[T[fhUzhRzQCQTTmQOStZFi;[W^^",
  "_paud@d?d=d>5[6Wffdf>i=deX?6wRaHoFvyQCQTTmz]Rp[0RtrPeENcTQ<XCgzd9BcTQ<XCgzNcTQ<XCUP^^Rjs3",
  "S9mItUYhj7QlSQtDTeQgQOT^2Vr_hTW4WWQSU>RQQj2Q>>[idPVqbHYQbHh6V^>T4JStZFi;[W^^_paud@d?d=d>w>YhnsmY",
  "w]lEf?qYsPkIWeTZf>i=TuR=h@mdmadefbh?kEuIddX?:uBp5_Z4WlmZsM;][X_WfmeX>ReTwT7Rg_RTfQMTL1T7Rg_R",
  "k>Rs^Ze<TL0QhQ>Rrq[YhZl]BYvZWYtZPZiZ6]k]:^6YuZXZAZYaaZyRmeH]xTyGV]^OnHf[YQ6WfX__KX>b]U;7U;:",
  "s>RpTnShedkBj?WdlxBQ;QwXP[cj4zWRsS:vdZfoppotxa5tx[mtxfz]_b2]_veb2]_cc]_vecc]_po]_a5]_vea5",
  "]_LQlnaa5]_[m]_fz]_YaU?blsKb2sKccsK[md<RBCZKkpd<YaU?bld<cDbBrta5wHrpwHcDbBBU?BMcDbBQPkpnoYqt:cD",
  "wGt:[mbBT@QXQRcDpIQ>aHzS=VRDzVRrTyNXPiPW6PSZSRRVPTQnh5StZd^Zz0e5ZVS9>RsQNhZ]xSEQLg@1QzQBQDUZ6[S",
  "e8]9]ARiS3iPSGR<V]ZlSGR<V]]B]kSGR<V]]:G[qRfR<V]Tk>RfcoQl^v:^6bZSGcoQl^v:a_SGcoQl^v:G>RfR<V]Yv",
  "SGR<V]ZWSGcoQl^v:YtZPSGR<V]ZiSGR<V]Z6ZYZXRjE]^ZAaa<>RfR<V]SGcoQl^v:z0ZyWWRsXPUSUMRD7XLRpUMQO]^",
  "SWTpimXaSd7_MRDAR1RiZ>7_MYTZwSWQMU^3RJQAXQRfvqTuj^T^s>VRLQNT^TucVLTbTfUSYLY9RrLSA_lQAQNcVETQ",
  "]wQAQNcVETQY9UZSESxXSRmUZTLT3?HXFSRQR_xS9RrLX9T3QvWPT3[o_VQuRzShRjRzShS9R5t0R42gFDUZSEDR5t0R4",
  "TdY9RrQARrLdl^z^NZ5ZNZkZj[V[g[T[fc;Y9UZSEQ]QAREUM?ROT6O5R5QUMR5SHXJj1IX3X;HUyER=mcZBR=S=VIS[R=",
  "WWhIQTQSaIcKg2X;HUyQhQ<RLcy^dVqREStQqR^Q?TL^?:wcYUR=1nH1Q>R=acV]acr;Y@VI2REStQqR^ZF1TluNuMuOwbwk",
  "wjwgwiVqREStQqR^aU1V]acR=Y::Y:R=diB[5z=ZUZV[Se8]9]A_1ZlbA]x][]B^lmSR=]:e9GH][GR=GHnHYv_2ZWb@G][",
  "Yta_ZPS9[w_XZibWRm][Z6ar:ZYZXZAa@dbYuZyd_WlaAU;6Wf_Z4X>_Kb]Xj4s>VRTLdeh?kE>Q;VqQ=]5R1kAS=Sh",
  "s>RpSQ]5Q?ShVqQ=]5aLgRedh>f=kB_YRiOs>RpSQ]5QjgUzM^NZ5ZNZkZj[V[g[T[fW3mP[0RcTbRZcpd9oQRe]7RIoQ",
  "XJj1IX3QiL[5Q];TyuBmcsOZBR=sPz6SW]OU:V]U:r;U:R=f>lEddWeR=bFUaV[z3cKn9L[5Q];QhQ<RLcy^dVqL[5Q];QE:",
  "qYde2dum7Wp[5Q];CbHaBV>WeQjQws5>QnV6g9^di;[WVq>QnV6YLWWYV>SkrUQUo3[eStQqR^@Z1RS_6Z1S>",
  "2X;HQDQcb7>[oRsR=VfR=0REStQCRWQaQiTtWp8bzWp8_oWpZ:bzWpZ:_oWpHZ:bzWpHZ:_o^A8bz^A8_ohH8bzhH8_oRs8",
  "bzRs8_oRsZ:bzRsZ:_oQS8bzQS8_oTnh3bzTnh3_ocO8bzcO8_oUM8bzUM8_o;QP8bz;QP8_oTn8bzTn8_oRl8bzRl8_oYV8",
  "bzYV8_o;XZ8bz;XZ8_oSQ8bzSQ8_oRf8bzRf8_oaE8bzaE8_o;m=bz;m=_oXt8bzXt8_o;QC8bz;QC8_o;Z:bz;Z:_o;8",
  "bz;8i7xe^8sM;TrWlXj4WfX_X>i7xeVxQfsM;lwXj=:Xj:Rj][RjRk3TQRjQjReTw[8SthZY@?fJsR8VfimQ2Q:Q;<XGWpSA",
  "S=?fJRi^_3S:;S:6SsCStcZ6tl=T6AuVT@VPQi4X>mcsPz6SW]OU:V]U:r;S=VIf?RiWPsMVRV;bD7z7c=1gdz7gd",
  "NQyAYaTQQuHRrWpaQVHQj5QTxh<q<Qha4Q][cSRQXQYQha4Q][csMVRQCcFsLsr=QPARgvEq<@QP7wU6wUTrwUU[wU4wU8",
  "W3Z@_RZ@[DZ@dIZ@eQZ@UdZ@Z:W3RZQF7RZQF6RZQFTrRZQFU[RZs6RZQF8>Q;yiR=yi_Ryi[DyidIyieQyiUdyiZ:Tdar:",
  "ar7ar6arTrarU[ar4ar8dirWVoa7hWRj;irVS_8UCW5S[ToQi4S[QOa74U;FaOR<]c3YWAQoUERiiZEU<[br@Z4",
  "UaF[_QqQFPav9TSYrZL9YraXSGU<[br@Z4S=U<[br@Z43cVU<[br@Z4S[ToQi89[pUL3_DCXm3[_exb^C=XmQGlt1Sk^iM8",
  "QG[pULRiQ]QAQAW9Tek8QAFSrodq@Q^WcQaVOSMk@TeViU<[br@Z4k@QAU<[br@Z4RiiZTenyaXS[S3RDWXaNXj^m^VSrod",
  "1Vo^m^VSrodXj6b^?6Xjx0UGuDsSnISraXQGRCWwQNAUEgTFnISraX9bmSpodQIR[nISraXQI[pQSQNAUEV:^m^VSrod",
  "_Wg1RlQhQCXOpm2aVHfJUaF[_QqQFPav9YrZLXjx0UG0hgX;USRQaEX9uEoo43_DexXj83[_hW0V3v4dOez",
  "0rWQ<QF;fIUnalSWQofIUnalb^QAsY_Wg2aVvhVSQVQ0mRl4aql4ueUCQNCktTjR3[6X_WlX>WfkDmYfdUX4UX6UX8UX7",
  "UXV9ddu>We6We8We7WeV9h?3SMUa6Ua8Ua7UaV9h@SG4SG6SG8w[f>WeVIS=_PS=4S=6S=8uFS=V9jC:jC4jC6jC8jC7jCV9",
  "lEjDRi4Ri6Ri8Ri7RiV9mdkIU:4SW4U:63l7U:8U:7U:V9U:V[SWV[SWSMSWvOSWhdSWJ7SWJV9SWWPSWa8SW_Vnw8nw7",
  "nwV9kEXa4Xa6Xa8Xa7XaV9fbtl=T6AuVT@VPQicZR1Ri^_by6SGZci=f>TfVxRd3Q]RdSsS:7]mpq3VG7Xac=V:^8Wey>3W=",
  "WlTuRQQjRjQ]TLUXhjZBRQQjm]6maZBWq3RJRdUXS:7U:S:7S[RQQjSsCVPJ^2WgbyStJ^2WgSGVkJ^2WgTuSEJ^2Wg",
  "S=SEJ^2Wg3VYXt^2Wg]mWcXt^2Wg3StJ^2WgsMVRQQXS1QRXS1QTXSnxQUXSVftSXS1R;XS1Y^QRXSY@]^NQybNnB",
  "T3S7;AT@R15QlR;;AT@R1W3RZxfi;[W^^_paud@d?d=d>Q3KKhUHzW;Q>[ovdZfX<T@8UtMX<6nq:nqY2nqlpVCMT@8",
  "VCM^r6qOY2qO8TJ[F:TJ[FlpTJ[F4TJ[F8sJPYe8sJPY2sJT@8sJk5sJX<6sJh3sJP7sJ6qBZoYe:qBZoYe4",
  "c;2Q>VWvdVWTnRWR;Mrpp3xEbBccbBopa5txa5tx[mtxrtb2txfztxxEtxQPkp]_veb2]_LrTcDbBQA[EYaU?bl]_IdMMcD",
  "]_D_zcc]_D_zva]_T@RB=]^]_T@QXQR]Kt:cDu4rpsKvTj;_8gDvTbBpoj;fm_z[msKfzd<ccd<QA[Evad<pobBa5d<rtcc",
  "d<fzd<xEdcpodcLQlnaa5bBrtb2bBrtccdcDskdcfzdcxEV@CZKkpdccDS9QTrta5S9QTrtLQlnaa5wXmHpowXmHcD",
  "NU?BMa5NU?B_8gDa5bBfznoYqt:[mnoYqHY=kpY[VMRXhgdtQ=UESg6SgRdSgQ=6SgQ=RdUaVWQS;QfRiQf",
  "r:soQUaRUudtIQUTnSf1XPR41QR6X?=QDTnSfSGUlQE[4kbQyXHQDq[P]dFHRcAUY2U1QaQ>?RzX<QBDQTksSVYh",
  "2dtPU>ksPCQYPCQYdRRER4Vq^C>jwleSRScQcoHU:>g@u>Ss[?byROR6Sg]5ROQj3rr_4V95^C>jwdUSoY?QR^mH[iXw",
  "Vf[iXwacTmSLT4SxhI[iXwQGQB[iXwsFFdRRER41Q@SqSmO_MzYUYSPn=j[S4UTRDwyRZ>Qdwya=FIzYUYSzaHwySvV^nFj[",
  "TdRen=j[SU]dwyj:ZdQ=wyRxn3j[W6gBwyTdbVIwyTdGR;wy<n2LUnj[Tdj:DXOj[S9XOj[Tdj>>RJwyW1T<wy5XdUnj[",
  "Y?nFj[[eQCwySzaHFS:QqQjSPn=QzQ=4Rxn3QzQ=4S9XOQzQ=42dtWm;QqROR60c@igWmQVS3QqW>^?TO^]=XV[X_I_J",
  "S9=XV[X_I_J^]QyXV[X_I_JReT6QyXV[X_I_JRe=QyXV[X_I_JReT6XV[X_I_JSz=XV[X_I_JS9=QyXV[X_I_JRZfW[X_I_J",
  "GfW[X_I_JReY^XV[X_I_JReY^QyXV[X_I_JRZVHHQ_TU[XRZcoQ_TU[XRZSdW>[XZ@Q_TU[Xu3XV[XS_QhXV[XRx=QyXV[X",
  "_I_JS4[ZW>[X_I_JS4tbXV[X_I_J]xC=XV[X_I_JgPV6xYR;Q?SETU^?TOS_VJV6TU[X_I_Ja=UnT@T4WtTUQGjcUXCQ_TU",
  "^?TO1UH1Xc3QpRtRQZuROzq^?TO1UH1Xcu<H_NQhzq^?TOsSeuWtTUQHjcQws5csS[Syk:^f1U8f]^f1U81VXXXSnQGU8",
  "u2^f1U8d9izXl5eZT_zQSn9U8S_U^]aRET4Sn1U8SRS3QqmhQ2Q2Q;VqQ?EW>[X_I_JVCW>[XUtzq[XSU?W>[XVCFeuWtTU",
  "Szzq[XRxRcxYTh;Czq^?TOV:?W>^?TO5zq[X_I_JVCQmR<Wpl]UST4LRcxYTh;[1YwQHXc2dtT@UneuS@QCXOWmW>QIjc",
  "QH>zqQIjcQHQDcSW>QIjcQH?W>QIjcQHCzqQIjcQHP?W>QIjcQHzqQIjcQIUHVCQmR<WpRcxYTh;T@UneuS@QCXOgeQKjc",
  "QKUHVqQ=QORB;fW^?TO1UH1Xc2dtT@UneuS@QCXOm4QHdJQHV4W>QHgeQHfW^]Unm4wdz:jMz8jKRebKm4wdz:jMz8jK",
  "UmbKm4jMz8jKu3SFFdJjMylm4jMRxbkm4wdjMqMm4wdz:jMk=FdJjMRZUZFm4wdz:jM[eUndJjMSv>UnV4W>QunFm4jM",
  "wFnFm4jMS8bKm4wdz:jMz8jKW1n3dJjMz8jKRxn3WmW>1m4wdz:1ZRW>jMz8jKl>Fm4wdz:jMz8jKydFm4wdz:jMz8jKyrm4",
  "wdz:jMz8jKa=Unm4jMz8jKu=m4wdz:jMz8jKUmQM^mthWmW>^>H^mthWmW>sFZQ^mthWmW><g:VHFQ<SqISmUyTU",
  "WAx>@UyTU^?Z_SETUacSq^XTUWAx>W>VfthWmW>u=euS@QCXOQhY>QHQF>QRUbQHV4UbQHVJQQUbQHawQH]8^]UnQhY>",
  "jL>QRUbZzUb1VJQQUb1awlGRebKQhY>jL>QRUbZzUb1VJQQUb1awlGUmbKQhY>jL>QRUbZzUb1VJQQUb1awlGS8bKawlG",
  "W1n3awlGRxn3WmUb1ZRUbZzUb1awlGl>e@Ub1awlGydFWmUbZzUbyrQhY>jL>QRUbZzUb1VJQQUb1awlGsFZQ^mthWmUb",
  "u=QhY>jL>QRUbZzUb1VJQQUb1awlG1euS@QCXOg>QHaiQHLaiQHraQHQy^U^]Ung>z9whlHuL^URebKg>z9whlHuL^U",
  "UmbKrau3SFFailHylg>lHRxbkg>lHqMg>z9whlHk=FaiwhlHRZUZFg>z9whlH[eUnaiSv>UnraQunFg>lHwFnFg>lHS8bKg>",
  "z9whlHW1n3ailHRxn3g>z9wh1ZRYwlHl>Fg>z9whlHuL^UydFg>z9whlHyrg>z9whlHuL^Ua=Ung>lHVfthWmYwu=g>z9wh",
  "lHuL^U1euS@QCXOV4nzQHQyvB^]UnV4nzuLvBRebKV4nzuLvBUmbKV4nzuLvBqMV4nzuLvBgQbLV4nzuLvBRxn3ZRnzZznz",
  "l>e@nzyrV4nzuLvBu=V4nzuLvB<g:VHFQ=Z_SEXcacSq^XXcWAx>nz[eUngejKQunFgejKwFnFgejKqMgejKgQbLgejKylge",
  "jKu3SFFgejKRxbkgejKk=FgejKRZUZFgejKgQbLm4wdz:jM1QhXVqMQhXVk=FQhXVRZUZFQhXV[eUnawlGQunFawlGwFnFaw",
  "lGqMawlGgQbLawlGylawlGu3SFFawlGRxbkawlGk=FawlGRZUZFawlGgQbLYzUb1RQY>WARQY>ZzUb1QhY>qMQhY>k=FQhY>",
  "RZUZFQhY>gQbLg>z9whlHqMQy^UgQbLQy^U[eUnraqMYznz1RQvBWARQvBgQbLYznz1RQvBWARQvB[eUnV4nzSv>UnV4nz",
  "sFFQ=Z_SmQTUb9TU0WMx?Spc_]wc_0c@V0dtQzHUTcoXCl__PcLRJ;l_coXCQTR41QTdI1QTHWg1QTHS7Tr1QTHR;VI",
  "<Qtl_coXCpRVxQVYe>zPR45pRrGS3_8QM>^_5pRHUT;S3_8QM>^_5pRHUT>SES3_8QM>^_5pRrGS3_8QM>Sm?QVS3_8QM>^_",
  "nkQ<sujVRcQzR4<Qtl_HXCpRVxkP>zPQyr>YeQBl_Qj5pRRQSES3_8QM>^_[e^nzZ>QVYeRE>QMTrcLHUTcoS7;l__P",
  "RebKYze@Yw1bkYzUbp?QGraWAbkraZzFg>QGaiQGLaiu3SFe@FRQY>p?ylV4lLz<qMbkg>1YzFaiz<ZzFRQY>p?QGg>",
  "QGV4Ubp?k=FbkRQY>p?Zze@UbgQbLbkV4Ubp?1YzlLZzFLRQY>p?QGV4Ubp?RZUZFbkawWAbkV4Ubp?[eUnV4FRQY>p?QGra",
  "QG]8QunFYze@UbZze@Ubp?z<wFQRe@e@UbQG]8z<S8bKLbkV4Ubp?W1[Ze@FRQY>QGV4Ubl>FbkV4UbQG]8z<1YzFg>QHjc",
  "WAbkV4Ubp?ZzFRQY>p?ydFbkg>QGraQG]81YzFaiQGraWAbkg>QGraW31YzFLaia=UnV4Fg>QGrayrbkraz<1Yze@Ubp?z<",
  "ZzlLz<u=V4e@Ubp?^]UnLx^RebKYzlLz<WAx^z<ZzlLz<u3SFe@lL1bkawZzFawqMLbkawk=Fx^gQbLx^RZUZFx^l>FYzlL",
  "ZzlLu=x^1YzlLZzlLyde@lLW1[Ze@lLyrx^W1[Ze@Fail>FbkraQuQRe@lLRx[Ze@lLyrYzFaiydFLx^l>FYze@Yw",
  "Rx[Ze@e@Ubl>FYze@UbyrYzFRQY>u3SFFx^ylYzlLydFYzlLS8bKV4lL^]Unx^Rx[Ze@e@YwQunFYze@Ywk=e@e@YwqMLx^",
  "yrYzlLlY<QM>Sq?HXCpRQ?TrQ3Q2Q;<l_;SYQs>QoLQXQTS1wvVRTUW1QMSESYQs>QoLQXQTS1wvVRTU5l_XVQuLVoW>",
  "_n[5[8QYTU<QMSqW>cLQBCSdW>5pRHzqSRS3QMZRW><l_W><Qtl_S:XCpRQyQVS3l_QjTkl_Q>QMQMWcS:70WYx5",
  "0c@V0dtKR5c^QqT4QOMQzpgUyQOMQzQybf<RoRQupaQQVSERE>QMTrQuyI>QVSEQ>c?THS5TFS5THRSTFRSTHRqTFRqTHS0",
  "TFS0THS>TFS>THS6TFS6THSBTFSBTHRvTFRvTHS^TFS^X=SjX1SjX=S5X1S5X=RSX1RSX=RqX1RqX=S0X1S0X=S>X1S>X=S6",
  "X1S6UsXdn;aZpcfLVtr91pjS1z?9Q=^=lFa2VfxP1oX1hn1RCmCYWSehrZ91RMmCYWSehrZ9bFQHKQzLBT^1]Vt3RBO",
  "hUzhdtSpg;aqg;aoa;Spg;z1g;XhYJV6Spg;aqg;QgQQ_@R^]r2dtSpVpXlaqVpXl2a;SpVpXlaqVpXlXhYJV6SpVpXl",
  "aqVpXlQgQQ_@R^[9QQXlQg^LrNV0Q]@SC;Spg;z1g;UsXdn;aZpcfLVtV8TgQLUZT]1SFcOZE1UlxH1xjwfaHSaxj1Spc_",
  "wec_1Spuyweuy1Sprzwerz1SpeIYWSehrZ9weeIYWSehrZ91SpTSoKweTSoK1SpoKweoK1Spzkwezk1RCmCzk1RMmCzk",
  "SXSLSqQcXwyTSLSqQcXwUsXdn;aZpcfLVtRCfSaJ1RMfSaJ^M_^QsU@c[TNUqQh]LU@c[UfaHSaU@c[0esQVaHSaU@c[",
  "^M_^QsxjTNUqQh]LxjUfaHSaxjtnr92pjS1z?ttTdQwxPQga2w72oX2SFcOZE_lc_]wc__luy]wuy_lrz]wrzYHtgSo",
  "2Sqm:Uw2_<2dUSo2lvQUMhhVn2ZszR2]JzR2n<Td2y1rk2QptHQOSo2VdzgSoQgQkIQNBAQ_X9uer6SQZ_SmUyTU",
  "2REiwRDFQ=Z_SmUySnbUSqISmUyTU2RETsSQipIUrapx>@UyTUTd[yZ_SETU5XcbUSq^XTU5Xcapx>W>5XcQwg:v0TU5Xc",
  "QwZ>R;W>5XcVqeuTUsFFIUZv0WtTUQGjc1euWtTUQGjcSRcSFeuWtTUQGjcsFFaj>RlRDQbW>QGjcu=euWtTUQGjcQGUH",
  "QGXcsFW>[X^]XV[X_I_JRe=HRfQO[sREW>^?TO3TU[X_I_JUm=XV[X_I_Ju3SFW>[X_I_J^5XV[X_I_JRxdJ[X_I_JRZQ_TU",
  "[XUmQ_TU[X^>XV[XSv>QRW>[XbYUlTU[X_I_JgQUlTU[X_I_J<fFTU[X_I_JRZfFTU[X_I_J[eXV[X_I_JSv>XV[X_I_J",
  "QuQRW>[X_I_JwFQRW>[X_I_JS8=XV[X_I_JW1[ZW>[X_I_JRx[ZW>[X_I_Jl>W>[X_I_JydW>[X_I_JgPV6TU[X_I_Ja=XV",
  "[X_I_JSRcSW>[XsFZQW>^?TOu<XV[X_I_J2dtZRFWmFIUZv0WtTUQIjcQGeuWtTUQIjcQHlfW>QIjc9TU9jcpHR0Qj",
  "SOKP@QcQXzlUNSOWzCQVScQPTnX<XHUSo2SOQFQDQ?KQBT:diQ=Z?QDScXEoX2l2YHtgSo2QptHQOSo2VdzgSo2Sqm:Uw",
  "2snDUd_lc_]wc_2_<2dUSotr2lvQUMhhVnttQwrk^z^NZ5ZNZkZj[V[g[T[fQga2QwxP2ZszR2n<2]JzRw7QgQkIQNBAQ_X9",
  "2jj[6i>i?hA_5jGjHgUb_jIhBc0gVi@_qhCkJeefegW^@iAgXiBjJiC2RCfSaJ2y1rk2RMfSaJQgSiS7XYbI2xj2x]2hg[6",
  "i>i?hA_5jGjHgUb_jIhBc0gVi@_qhCkJeefegW^@iAgXiBjJiC_luy2Vtc[]wuy2ZL2RCmCc_2RMmCc_0VpQDScXEpjS1iF",
  "_lzk]wzk2pjS1z?2oaupYdXw5ik8qX:b_^@_5_q1TLnx71h3_672oaQTYexcb8vPztYi2oa_;[6WlWfX_X>fdSs6Ss7Ss4",
  "Ss8lERi6Ri7Ri4Ri8kI3l7SW7SW4SW8f>S=6uFS=4S=8ddWe6We7u>We8h@SG6w[SG4SG8fbuJV:8deVi6Vi7Vi4Vi8kEed",
  "SzCS1ztYi<SF^rhtS1ztYindzWSQtDTew>b2RigDb2SsrT[mS=tAS=RWR;MfzS=RWR;McD3ccRigDccVijgVi[Eb2Vi[Epo",
  "Vi[Ea5Vi[E[mViZGY=kpVi[EvaVi[EcDSGihTuRWV?RigDa5Tu_z[mYcWIRigD[m3RW]^TfcvRigDfzTf]KaLSs]KblXNkp",
  "TuHlzWeU?R4eBp5Rj4fbV:Y2U;8X_W33T@8V:4X>kEXaY2_Z4W3V:8WfXalpXa4Xa6uJW3U;7V:6WlpIQ=Z?QDScQPRsUqSo",
  "2RyTcSo2kxSoXhYJSAfYTWQU]12PQUSoa<QQSodiVpQDScXE_yQo]qti2r[2cfSl2^xyVSl2YS_Oa<UD_w",
  "sraSa1=X3QTVJREaZiSTYQ0bYhm5QZhhYR0ilQ>XPQaQhDtISFayUCQORtb:0QhDtISFayUCQORtb:",
  "pHa1i]RlQSq<KS?Q9hDS[TaQ9wmS[T1Q9;6S[X8lO8S[S]zH7S[S?lOV]S[URzNVzS[S?Q8cO6S[S]Q5cO8S[VMlO_x",
  "S[VMufnHS[URx2_eTdS[Tax2Q>8S[X8zNQ>7S[ZDQ8Wp:S[URQ5Wp4S[X8Q8Wp6S[ZDQ1Wp8S[Z^Q2Wp7S[Z^Q1zB",
  "S[S]Q4Rf4S[ZDQ4Rf6S[S]Q6Rf8S[T1Q4Rf7S[S?Q7Tn:S[T1Q5Tn4S[TaQ1Tn6S[VMQ3Tn8S[VMQ6Tn7S[S?Q4zC",
  "S[ZDQ3YV4S[TaQ:YV6S[S]Q2YV8S[VMQ1YV7S[S]x2xvS[ZDQ9;Q@4S[T1lOQ@6S[TaaFQ@8TdS[X8zHYLS[T1ufl3",
  "S[VMk[QA6S[S?aFm=S[T1Q7uT7S[TaQ2QS:S[S?Q:QS4S[URQ2QS6S[S]Q3QS8S[VMQ9QS7S[VMQ:;TZS[S?Q5UM4",
  "S[Taufl7S[S?Q6UM8S[X8Q:UM7S[VMQ5QV:S[ZDQ6QV4S[URQ1QV6S[URQ3QV8TdS[S]ufd8S[ZDQ5;s6TdS[T1zHQF8",
  "S[T1zN>RSS[URk[>RqS[Z^zNgdS[ZDQ2cO[dS[[IQ1cOh2S[URQ9TnW5S[T1Q:YV?RSS[X8Q3YV]gS[ZDx2QzRS",
  "S[Tak[QzRqS[X8Q9;R8RSS[X8x2RERSS[Z^ufR74S[[IlOUPW3<XGRliKS[hSS[jRS[pCS[URSBS[URS^S[VMS6S[X8Rq",
  "S[X8S0S[ZDS^S[Z^RSS[Z^RqS[Z^S6S[Z^S^Q3W3YZRzm7RlQ2S?RfTQ]DT1QVQkTQ]DUR;RzT]]DVM;^1R6]DVMQ=RfQO4",
  "]DVMISNQt_c]DX8Q=;=[d]DX8I;QzQj]DZDQ=QSQyMECX9]DZDI;QyMECX9]DZ^Q=QSSf]DZ^I;R0SZ]D[IQ=RsSf",
  "]D[IIRlSdRdS[UpQ1QVSJQfS[UpQ2_NQLRkS[UpaFTpWCS[UpQ4[0S14S[UpQ6RsPVdVnRmQQm7RlUpQ8WpQl8",
  "S[UpQ9WpQTUS8YZRzm7RlW;zHCWqS[W;Q2QVUJS[W;RSRmQQm7RlW;k[QO=[wS[W;Q6RfQN6YZRzm7RlQ2Q5Q1RlnPs6",
  "]DQ5Q2^ATpR6]Dft]DY]QV_ARd]Dad]Dfv]DQ6lOvD]Dfw]Den]DgbRmQQm7RlQ2Q6Q7UM?R8RSYZRzm7RlQ2cn]Ddj",
  "]DQ6Q:RsSCUB]DlS]DlT]DQ7Q3^AsoUr]DQ7k[soVF]DjU]Dk_]Dka]D]b]D]F]Dmu]Dkc]DlW]Dmv]DQ8Q4RfQQUB]Do>",
  "]DQ8Q7UMQh4]Do?]DXR]Do@]Dkd]DlX]DoA]Dmw]Dmx]DoB]Dmy]Dmz]DQ:lO_?ROQfm_Q3Q1SQ_AivVKCRd",
  "m_Q3Q6RlZ_@osS[Y[Q1[0=SZS[Y[lOSlS[Y[RSS[Y[Q4QSQDQXR6S[Y[S0S[Y[S6m_Q5Q1QVQy=c]UCz]Y6m_Q5Q2RsVcAY6",
  "m_Q5Q3RsVcdKQaQ=d34m_Q5Q4QVQy[Cm__sm_adRmQQm7RlQ3Q5ufRJD]gYZRzm7RlQ3c:m_fum_gam_fwm_en",
  "m_Q6Q5cOQOQfm_gcm_aGm_cnm_djm_k^X?SLQBRDRlQ2gcefbGefgZeffnefhMefhNefhOefiHefiIeffoefg[efeAefdh",
  "efeleffqefemeffreffCeffseffDefg_efkYefmoeflQefmqefmreflReffvY:Q4hOkbZoWHQTQVQXeKVhX2qa3Xw",
  "QgQyRbUNc;h8TlZ5ZNZkZj[V[g[T[fp4nlUmji5t7S8jhmWX6<xUqDX6Gxgu6k:XBf]XBu2XBnmXByuXBwQXByjXBwOXB",
  "daW<k:W<f]W<u2W<nmW<yuW<wQW<yjW<wOW<ReUlW<5Zvvvyviy5R2iyS8WiiymWiy<oWvvqDiyGa0vveBa<v3utQcR;Zc",
  "S8RcQBWwRoR;Zc<XPQQdERoR;ZcyvdERoR;ZcykQPQSRoR;ZcbUQASaROS3b<Q=RcQBWwRoR;Zc",
  "2XURTrKROS3b<Q=RcQBWwRoR;Zc2ROS3?QhSScrdERoR;ZcyvdERoR;Zc0V3v4RtR8XZQQV0SmSe;rmQ01g;acnQTzauSgjh",
  "fcXB1W<SgWiiyfcREYWbQSWUlREYWbQSgWia:REYWbQateRREYWbQfceRREYWbQatV_R[REYWbQfcV_R[REYWbQVfREQZO",
  "SWQUQSREQZOSgWicbQSREQZOatV5dEREQZOfcV5dEREQZOatV_oJREQZOSWUlV_oJREQZOSgWia:V_oJREQZOSWQURf]XO",
  "STQNZoS7;TwDQLQPQASAUmSLDkoTlSTzxt>koTlTJDScuhQhUyUPUmSLDkoUPN^LQU>V0V8Q<nQ[8O",
  "TJDScuhQhUyV8Q<nQ[8OReR8zpQUaRSQWCsQ1hXRASTzxt>aRUMSHbVQBQBQUaRUMSHUmSLDaRUMSHXNjiReR8zpQUaRSQjh",
  "1hXRASTzxt>aRSQjhUmSLDaRSQjhuGgSXBTJDScuhQhQTwrXBReR8zpQUaRwrXBUmSLDaRwrXBNQOn]Q]QTwrXB",
  "G>XeQTwrXBUmSLDkoTwW<fcW<RZRDXZS1wrI]XO<a9Q]QTSQWicbRf]XO2TwVpSo1hXRA2V8bqQ<y4tp]fy42T@QOSo",
  "2REYW@SobUnQ[8So2CaKSo2V8CaKy4tpCaKy4[yZ2CaKy42fKCaKy42ROq3@SLSoap[qVGeYS3sz2ZeQzSo2tSLjeSo",
  "2QExRSLSo2QOREiUSo2QOWcQzSo2Xy>So2RwPKXUQQRlS3sz2WzCSo2rmSoQwQRSYCScSo2haRGSoWKQkR5[8So",
  "di]YQTSSQE@iTSo2[<jeSoQwSF[<jeSoZx?QqSo2v1AX:SSQEY7QqSoQwTsART>SobUQUz]yC2RTQRz]yCQwSLQZQ]yC",
  "bURLQQRJyC2S3SoQgUqR<Ax50S3BjeUvpIn@lKREXCQAZ:Q4SODRQR5VKQosuBVRa4RzQBTETQ3T7S7QsrJ_4@VKCQsrJ",
  "TfQlQ]RYTfHTsR6XaQkTQ3_?ROQfUX>R;@g@3Q]QO:3SlS[SfRiVxRDR6TfkvQ0SGQTRtrYSGSmVKUcRiaIUaAR6",
  "3R0QkQN^8TfQODYmSa[;43QpXUWgTfQkU7RiJU^TfTpS7V>S[==VxRYRiVxT:3vDWeeSS[Z?QoodTfX9m]QjU;TmSM3QpRY",
  "SWR;Q?RkS[U[3[;Qcq34X?UJTuQl^LVn3UzxSUaTsRk_ZQERlRtR1SgJUe43U4b:Ria9QRT]qXzO4XaaHPRlUwTfa3xm",
  "Q9pHZHBko[6[SSPQ0SPR4S4Q05R6ZUSRQ0SvQ05UBTkQ05R15UY5Rd5QjGQ0RmQjGV>ZVS9Q0RxR1S_Q0<Q05QfReQf5TQ",
  "5SH5R45RKpIBQOko[6S9RS5R65RdVCtdS_Q0T3R6QuRS5UYSPQ05Qj]9RZRS5Qf<R4Y?RS<Q0NMfDZVGV>5RKGQ0Re@RS",
  "S9Q0<OZU[SVC?td5R1RxRSGR6f;S4Q0S4RS<Qf<@RSGShe5NMo=ReQfVC??RSS_TeRmU7RmKRSRmKRqRmKS0T3Q<RSTJRS",
  "VC??RqQ2SOgj;j^RtQaV_SxQoYiRZtCTl[W^^_paud@d?d=d>qHituAXNji3t7Sgjhp9X6RixUqQX6S=xguGkCXBgSXBmfXB",
  "fcXBp:XBqWXBqRXBqVXBue]eQnZa[6S[4Ss4U:4X_3RYVv4u>XN4Wlfd3[CU;Qj3SH3aNX>nvRiUdSs73T]U;OSW4WfU;LO",
  "TuUdSsUdU;UE3oVTfUdaAab3rDGotQ_TlausQSgjh>Q;w>k5S=QXQPQNQ?UMa8RiWcQPQNQ?UMa8anCQPigcoWPSPx4LTQ",
  "S4AeHRZTmOQuAHQCVnW1x4QPYLYZ?nH^5ERdUmA?UBTJrLRxSYTzW6EVnRm[@GuhjvTkT]5R<VnS9x4QPYLGxgcLSc:<uhWq",
  "Re=AQDOSRQRnHS8sh_R5vGQDOSTh0hcUtQPTbwOXBkb]eVdIigTQS[XFUXc=3Qp6X_VvS:6kGS:6VvhYkGm3WlSsrb4u?6",
  "SGQUexS=QUexX?_A6Tu==6m^6Yc6_46WfTfHQNRkRiTR6e<BTR6V:QARkV:v:X>mZU;UEddSWRB73RPQ0V:T]V:QN6V:X9",
  "W_4uJfbW_:TNa3]eVdIigTQ1Qp6jLhYY@QUexkK6kb[xz]Seq[QM[wSP^0S4SqV[_1RZn:ST8u;Sv^0j8TZReT^SUCR6Rx[?",
  "u8l>V]bVQjRZHTbqISv7<SqYhQuTvS97k=4W1Rg:cLQBR=Um[@wFTvwSZUZVYk7Tda<QXQYznT]0]eVdRBQTVR:WlWffdSs7",
  "mYUX7gT:uBsOZB6kISW7mdU:6U:7uIi=maz3f>uFh@SG6w[fbX?:X?6deVi7h?lEqYf?RiWPddc;RjY3[8QFQ<Tr",
  "RjY3[8QFVH>XnRjY3[8QFVH>R=gTt[V^Z_pkU:co[q>k1U:co[q>mIXnS[Tm:S[?S7]cSRQXQYznT]qHTl[WsQuA3XB",
  "Q3srRzb9Yl[3Qibm6_51:1_P_q1W2wa6_51:1_P_q1W2RjRk3SfXa73q;j?TuU[S[U[SWU[3Rz4TfeQZBU[SsbHUXbHU;UE",
  "X?U[U;UBXNU[U;OVvU[3aNVveQ3T]3[CU;Qj3SH3fJ_Z6U;VERabm6_51:1_P_q1W2wa6_51:1_P_q1W2RjRk3SfXa73q;j?",
  "TuU[S[U[SWU[3Rz4TfeQZBU[SsbHUXbHU;UEX?U[U;UBXNU[U;OVvU[3aNVveQ3T]3[CU;Qj3SH3fJ_Z6U;VE",
  "SXRQYPUyQia4dlReY6RxS1R1S8U[UmQmQ0<8<vqmSR<aLu<:ST]^SPAU7sGYIS4lZSzSfUm=RkSvW2bVS3vqTkhppdSRex",
  "^5MR=i4JRdRmUT4YZUETJEShQuQBR4QuQ<85SASR_ARdUtZwQuR4e6SZqITJX9Qupd5S145V?UtiPUtCs6UtWqQu[dqB45gw",
  "Quhc5QNTeqBQzRkTJSZYZTQu<VE0eyIQTvuQioHZiYv]:Yb:_1sG[CZXYu<VxTvb@NV^V>ZlmTW1>[?Rx>[?W6TQRmATv",
  "asW=u:ZyZYf[[SZU]9ZVe_qCqJzM^NZ5ZNZkZj[V[g[T[fhUeyqz[3[6_KRjTvRjR4S[YLmcU;HBR=X_U;TvddWeTLWlfd",
  "U;HYhSsTLh?h@f>X>_ZTvi=U;H[wlEf?kIU;HTZSWWPU;H@WPnwR=U:R=WfkEnsUXR=qYVvR=c;Ra:_KRjTvRjR4S[YLmc",
  "U;HBR=X_U;TvddWeTLWlfdU;HYhSsTLh?h@f>X>_ZTvi=U;H[wlEf?kIU;HTZSWWPU;H@WPnwR=U:R=WfkEnsUXR=qYVvR=",
  "ueRDutUy[6SP4N4NUdRZ4GVzRZUdTJ6[SS84S44S4_ek<ZUTk4yn5SMT3SMwLwNYtG_e]9l?W14S_4S_l3wP<Udu9Um4ZV",
  "5RYYb45RkSv4SvUdS4UdS4[5TzRxUdqyB>[Q>RBUyQMKQTkoQiQMQfS[T^UXg<U:X9U;U7VvQORdU;PV>VvVxRd_4Omc",
  "V:QbR6VvR=3RcU7f?UaTQ3QRTLgTcBV>U:PTQTfSZZBS:RKSsSZUaPZc3QyfVaBbHRjgwTfS:RkuDTf[qRkSGiQaBSZ",
  "S=QbUjkG[qRkRiRQR1ZBV^V>3SASW[qRkSg^_kGbHTfRQQfTuSHUXQyPOm]QfRicBR1X?cBY43Q]QDTeRiS:RkW_QDV>",
  "Tf[qVETfV^V>V:V^R6TuAQDTeSsAVEBQ;NQn^Ds;Q[L?Q@A[H[6S[ssS[4Tf4TfUdU:4U:UdU;6X_Sg4mYTdddWeR=WlW__e",
  "ZB4fdh?UaV[SG4S=4S=_eX>nvaB:Vi4TdRi4RiUdSW4XN4Wf3RYgT4Tdf=Vv4TdRa:S[ssS[4Tf4TfUdU:4U:UdU;6X_Sg4",
  "mYTdddWeR=WlW__eZB4fdh?UaV[SG4S=4S=_eX>nvaB:Vi4TdRi4RiUdSW4XN4Wf3RYgT4Tdf=Vv4Q5pIa1=X3>VRW[c3",
  "Xfc4Xfc5Xfc6Xfc7Xfc8Xfc9XfcRXfekXffAXffBXffpXfhQXfhRXfiLXfiMXfT1Q2UEXfT1Q2QjXfjRXfT1Q3UEXfT1Q3Qj",
  "XfkVXfT1Q4QjXfkWXfmkXfmlXfmmRjT1Q9U7XfmnXfo:XfqpXfpCXfs^Xfs_XfucXfURSjXfURS5XfURS0XfURS>XfURS6",
  "XfURSBXfURRvXfURS^XfVMSjXfVMS5XfVMRqXfVMS0XfVMS>XfVMS6XfVMSBXfVMRvXfVMS^XfX8SjXfX8S5XfX8S>XfX8S6",
  "XfX8SBXfX8S^XfZDSjXfZDRqXfZDS0XfZDS6XfZDSBXfQ1XRXfZDS^XfZ^SjXfZ^S5XfZ^RSXfZ^S>XfZ^S6XfZ^SB",
  "RjQ2S?MQ2fnXfQ2fDXfUpSjRjUpQ1U7XfUpRSXfUpRqXfW;hTXfW;Q2U7RjW;Q2UjXfQ2jUXfQ2lWXfQ2kdXfQ2oCXfQ2oD",
  "Y5gZY5fnY5hMY5hNY5hOY5iHY5iIY5foY5[I:Y5[IU7Y5[IUjY5eAY5dhY5elY5W;:Y5W;U7Y5W;UjY5emY5frY5fCY5fs",
  "Y5fDY5g_Y5kXY5kYY5moY5lPY5kZY5mpY5lQY5mqY5mrY5lRY5pDY5scY5sdY5seY5o<Y5pEY5msY5pFY5pGY5o=Y5iNY5jS",
  "Y5ftY5iOY5k]Y5_sY5adY5dBY5c:Y5fuY5fvY5gaY5fwY5enY5gbY5gcY5aGY5cnY5djY5k^Y5lSY5lTY5lUY5lVY5jUY5k_",
  "Y5kaY5]bY5]FY5muY5kcY5lWlAS?kUlAS]kUlAT1kUlATakUlAURkUlAVMkUlAX8kUlAZDkUlAZ^kUlA[IkUlAQ2Q1kU",
  "lAQ2Q2kUlAUpkUlAW;kUlAQ2Q5kUlAQ2Q6kUlAQ2Q7kUlAQ2Q8kUlAQ2Q9kUXkgZXkfnXkhMXkhNXkhOXkiHXkfoXkg[XkeA",
  "XkdhXkelXkfqXkfrXkfCXkkXXkkYXklPXkkZXkmpXklQXkmqXkmrXklRXkpDXkscXksdXko<XkpEXkmsXkpFXkpGXko=XkiN",
  "XkjSXkftXk_sXkdBXkc:XkfuXkfvXkgaXkfwXkenXkgbXkgcXkaGXkcnXkk^XklVXkjUXkk_XkkaXk]FXkmuXkkcXklWXkmv",
  "XkpKXko>XkpLXkpMXko?XkXRXko@XkkdXklXXkoAXkmwXkmxXkoBXkpNXkpOXkoCXkmyXkoDXkn0XkpPXkn1XkpQXkqw]CbG",
  "]CgZ]Cfn]ChM]ChN]CiH]Cfo]Cg[]CeA]Cdh]Cel]Cfq]Cem]Cfr]CfC]Cfs]CfD]Cg_]CkX]CkY]Cmo]ClP]CkZ]ClQ]Cmq",
  "]Cmr]ClR]Co<]CpF]CpG]CiN]Cft]CiO]Ck]]C_s]Cad]Cc:]Cfu]Cga]Cfw]Cen]Cgb]Cgc]CaG]Ccn]Cdj]Ck^]ClS]ClT",
  "]ClU]ClV]CjU>Q;i<S]hDi<T1RlQ0i<Ta;R6i<URwmi<VMSQQ0i<X8;R4i<ZD;X4i<Z^;R1i<[I;Rdi<[IMQ3XtRS",
  "i<[IMQ4XtRqi<[IMQ5XtS0i<[IMQ7XtS6i<Q2Q1QVQ0i<Q2lORKi<Up;Rki<W;;ezi<Q2Q5;W[U7i<Q2Q6RlU7i<Q2Q8cOR6",
  "i<Q3x2cBPRki<Q4aF_eKQ;RjQ9bGRjQ9gZRjQ9fnRjQ9hMRjQ9hNRjQ9hORjQ9iHRjQ9iIQ2qyU_g2dOTr<thU3hrRsa2",
  "3_bU3hrRsa2]aY2uCU7S[^BTdkG;oSnyalQG^ERd3RzQFT4oSU:x19UGQGR[Z4wY4TfbnYMxoSgcV;oS3d3QovDuCShUX^B",
  "uCE^BWeXmuCR4WecV^B3S<r]Q>o4R[UGUaQooSUaQF;oSUaFbJQfuCJFbJQfUaF_gakR[bJQfu?yHsSalb^Rk9[pRlRDQf",
  "_ZXmuCexTfbnezl@b^QAFbmodQIR[alVix19[uHUGuCTeSWB;VNX[o8SWQooSnyalSWSLT4oSSWsXX?FSrUGTduCRk",
  "S4jpwvXmyeEjpwvXmSPAQqxAQ_BcyR1RZUqQ_BcyR1W6f4BcyR15QMmJTpQORscyR1^>Yjn>RsXURbsX<QxQSo8",
  "Q5kbBj2WYCWwq<:[SZU]9ZV]:W3Tk8Td]AynRx6yoRx7ZA5SMT36T38T37Z6wLwMu5Rm7YtwNypyqG7ZPl?S96S98S97ZX",
  "S_4S_6ysS_7YuwPyt<8<7Yvu9ywwSRe7aawWyyu;TdYb:Yb4eBi:W3Sv80UTVdAQ_QOSq>igpSS[dGUXplU:_[UBu>XaaI",
  "Vvle3QyUBSWdGV:ogqTR4bynJjAQjS=W=RipTRjs4nvRiUZUdaBv]3rre<Tv_4VETd<XPRGSoqHTl[W^^sQuAuG1W<SWUlW<",
  "UsQMI^LQUQcQipS^]UBS4plRZ_[UBk<u:Svlea=UBRedGSUoggOR4W6nJbVQjj:Q?W=qI<pTQus4l?k=UdW1v]5rru8[eVE",
  "2m6V=R<SA2mAV=R<SAh8TlZ5ZNZkZjp4nlWKW[ug=UyQiQ=]5pSQuQLkzj:KdG^]UBS4plRZ_[UBj:Udk<u:Svlea=UBRedG",
  "j:PogSUogj:LQlR4gOR4j:QqnJW6nJj:ROQjbVQjj:Q?W=qI<pTQus4l?k=UdW1v]5rrS8QRfxHTvu8[eVEQ:Q;h8TlZ5ZN",
  "ZkQgQA[QA_yTntgwsYHtgSQWCp4nlu6Q4sbRQRwUyQipS^]UBS4plRZ_[QPMrrk<u:SvV^V>a=UBRedGSUoggOR4W6nJbVQj",
  "qI<pTQuPV>l?k=UdW1v]Tdu8[eVEqsh8TlZjp4nlu6UsS:QUS1koQiQMUESPT^S4SqRdRZRDQfk<SRgdSvc=a=QfReT^",
  "SUCR6Rx[?l>R6bVQjqI<SFR1QuTvl?k=4W1jq5UzR4u8[e7h8Tlp4nlu6Z5ZNeBa<QXeKhm0ZHRJUy[6SPQ0S4Q05R6[S",
  "SzQ0ZU5Rk5R15Rd5QjGQ0]9S_Q0<O5QfZVS8Q05UY<Q0ReQf5TQ5SHT3RkGV>NQ0qs2U3hrUN",
  "Q5sbIQNCASe;VxQNVmZHXZV0[6X_WlX>fbkEmaS[>Xni=h@f>S=>XnS=4S=r?dem]Xnh?nsWeR=lERi>XnRi4fdaB:kI_4Xn",
  "SW4SWr?SW8md<s5QCScX4X?ScQ>XnQgR<RBTA[6X_WlX>fbkEmai=h@f>S=4deh?nsWeR=lE3_uvE:Ri4fdaB:kISW4SW8md",
  "c;S8nR=grUly:jvatg;5dum7uTIQf3UTV>qHTl[W^^_paud@d?d=d>sQuAXNji3t7Sgjhp9X6RixUW3uGkCXBgSXBmfXB",
  "fcXBp:XBqWXBqRXBqVXBatW<kCW<gSW<mfW<fcW<p:W<qWW<qRW<qVW<SWUlW<3ZvvvXNRciy3R2iySgWiiyp9iyRioWvv",
  "qQiyS=a0vvateRW<kCeRW<gSeRW<mfeRW<fceRW<p:eRW<qWeRW<qReRW<qVeRW<S8nRTwy:UBkCy:jvgSy:jvmfy:jv",
  "fcy:jvp:y:jvqWy:jvqRy:jvqVy:jvSWUly:jvh6VcCZuQPSt[6YQ6WfjFTdX_X>qs5pn[zTSZhU8njf<VqYh_1ZlbATd]k",
  "^l]:Td^6bZb[a_d;bxYv_2ZWb@YtZP_XZibWZ6ZYZXZAa@_GdbYui:ZyRxYhRe@]ORe@TZSzR=W3WWRlX3SnNuhV]5eL",
  "c;Wdlx2swZ5ZNZkh8itnlu63W<[ynRTwg;lYmP;Xw]a_wNSiSMNQhWrayWGRmRrQM^_i4@VnRZcpd9oQT3QRWh",
  "Q9RXTpdEWcXEc@koQiUdp<nJuLUB1ROQj1Q@v]wfaIVfHTv1rrY:dG1REVEVfX9WAQlR4Y@W=WAQyUBVfUZUdVfpT^?41oH",
  "1V^V>acg:UdYUpl1VHQLUBYURQPV>1T6UBjLV^V>acRQQLUBnxogsRaIsRdGS=]]Tl1v@X6S=otV0haYRy]XEc@koQirI",
  "p<Qj1nA1RObf1Q@[?wfaI]0SKRS1QhR4Y:[41T6R4]0SKS5WA[?1VJSAWAnAVfYI]0SKRq^?[41oH1si1VHR61WHbfacTb",
  "YURQTv1RER4jLsisRTb1n_sR[4jL_PS=]]Tl_6SH1btQ3sbIQTS1RQ=UyQipS^]UBSPQyUBS4plS4HplRZ_[UBk<u:[zor",
  "VqQFleSvRQs4TkleTkRQs4a=UBRedGSUoggOR4YbQlR4RxHQlR4W6nJRZRQnJUm>nJbVQjqI<pTQus4Qulel?S84k=UdW1v]",
  "Ybv]W1Hv]5rru8YkHTv[eVEmNS;Rf_tSnS[Syc;h8TlZjp4nlu6mP]ES8QLR<SAd9S<Q^[iXwT;Q^[iXwz0k:dF",
  "T3WXlrQLTex3aHxRUy[6e_Qu8a>85TQQuTQQu4QuU[[SqC]9qJZUe5ZVf;ynYb4Ybk5YbRYS44a?4S4UdN4Tk4u9Um4RZ4",
  "RZUdRe]gl?S84SP4SPUd]x4]xk5]xRYwN^O4qG4wLec4SUk5SU45RYS_45SMwPSv4<UdSvUdY?k5YkUdk<eBmN^D",
  "[GQRSaeZYETwTgm<tneZYETwTgm<0eUeZYETwTgm<2TwTgYEeZm<2V8QAQvQoYETwZhm<2TwZhYEV8QAQvQom<",
  "gLWr]7RGQ_VhQPkoQipSS[dGUXplU:_[UBu>XaaIVvle3QyUBSWdGV:ogqTR4bynJjAQjS=W=RipTRjs4nvRiUZUdaBv]3rr",
  "e<Tv_4VEW3qHTl[W^^_psQuAuG1W<Y9coQqQCStQipSS[dGUXplU:_[UBu>XacSMV^QRMrrVvle3QyUBSWdGV:ogqTR4bynJ",
  "jAIMQ@v]S=W=RipTnvRiUZUde<Tv_4VEqsqHTl[W^^_psQuAuG1W<UsQBQMQZYVcoQqQCStQipSS[dGUXplU:_[UBu>",
  "XacSMV^QRMrrVvle3QyUBV:ogqTR4bynJjAIMQ@v]S=W=RipTnvRiUZUde<Tv_4VElY<XP[cReWjVSmi[cu2S<QBU<cI9Xw",
  "Q<Q;qHTl[W^^_psQuAuGQ6sb]ejuLigdQ:e>:1Y2e;6e>6_5e;81exe>exe;>U7e>>U7e;ZoU7e>ZoU7e;lZe>lZe;ZoSh",
  "e>ZoShe;YIe>YIe;>XT]0Y4e>=Y4e;bHe>bHe;ZoRke>ZoRke;ZoR1e>ZoR1e;ChZe>ChZe;Tbe>Tbe;>[C1RDQf]0Qj1TQ",
  "z7SHe>>SHe;Ure>Ure;QUUje>QUUje;QURke>QURk1^8e;fJe>>fJe;dl1UO1rM]0Uje>=Uje;iQe>iQe;AUYe>AUYe;pp",
  "e>ppe;SZe>SZe;>T]z7Oz7Wh1ZEe>ZEe;aNe>aNe;X9e>X9e;>T^e>>T^e;Y6Y:ZEQ4lYnd[oQOaR[H[61Tr]0U71SqU7",
  "]0Uj1QUUj1XPO1XT1Uw_5lFSCbp41U[]0UE]0Sh]0ERk1[4b_1V;]0X4]0R11iP1R;R11[C1RDRk]0Qj1SH1QURk_q1W2",
  "Y@bNTpQBKR<E;exbC?v1n;;ex1CU[]0T:1SFT:1T]Vf^VT]1Wh1SLY41T^1Ur1VTRk1XPR4^@bD7Y@bNTpQBKR<E;][",
  "bC?v1n;;][1U2Q0]0Y4]0QFO1R9rsVSSo1Vn=Q;]a[61Tr]0U71SqU7]0Uj1QUUj1XPO1XT1Uw_5lFSCbp41U[]0UE]0Sh",
  "]0ERk1[4b_1V;]0X4]0R11iP1R;R11[C1RDRk]0Qj1SH1QURk_q1W2Y@bNTpQBKR<E;exbC?v1n;;ex1CU[]0T:1SFT:1T]",
  "Vf^VT]1Wh1SLY41T^1Ur1VTRk1XPR4^@bD7Y@bNTpQBKR<E;][bC?v1n;;][1U2Q0]0Y4]0QFO1R9rsVSSo1VnlYqHTlausQ",
  "SgjhuG1W<j4QTWiStR8ahvu[6mai=kIz6sOuBddnsz3mdU:V]deViYLqYlEf?fdmYh?h@f>kESsQR]XQV:fbSsQRQ?SETLw]",
  "sPX?:sMhDWlWfX_X>Rm]yQSUSTvS=SEYaQQVIwRVc^nRQRk_4Ux:SWQT:_4QB_VQ:Q;RZxfi;[W^^_paud@d?d=d>",
  "UphUQAS7StswZ5ZNZkZj[V[g[T[fh8itnlUmji5t7S8jhmWX6<xUqDX6Gxgu6k:XBf]XBu2XBnmXByuXBwQXByjXBwOXB",
  "[ynRTwg;3]fQ0XNRcR6k:bqgkdiT@QFARJq[RDAUESP4l?S9UdUm4wPNg<NVxQjmSVxQjSTR=Yb:RZTbSvTbZXS_R=i:]:",
  "<Tvu8<YIRZYIYvSv4TJPV>YbQyPV>mTa@3hXRAW1[?Rx[?RxRQUES4[?W6QjRmg<qIVCQju:5SfTJVE^5RkSUY6TJQf",
  "TdQga3aj>UNRmUZVHUN2lvQU^DW3VqZR[YSUC@bbSnQ5Q=RXTpdEVmRJUyQipSSg]5pSS[dGSg]5KdGUXplu>Sg]5UdXaaI",
  "Vvle3QyUBV:ogqTR4bynJjAQjS=W=Sg]5Q?W=nyVtZ4RipTRjs43hXlenvRiUZUdSgQRfxUZUdnyVtZ43Xdt:V^QRMVHQLUB",
  "e<Tv_4VESg]5REVEnyVtZ4qHTl[W^^_pausQuAXNjiuGS8nRTwg;T3cYV^QRMVHQLUBqyQBVmRJUyQipS^]UBS4plk<u:",
  "Svlea=UBSUoggOR4W6nJbVQjqI<pTQus4l?k=Ud5Xdt:leu8[eVES8dG5X5R42VgDYTUqhITvQga3eL5eZU85csk:^f",
  "NR<TASnS[Sy5evS[SyT3ZfpiXl5XdHXl<@TWQcU8h8Tlp4nlu6mP;V8izOnydFNZ;f@5ixc1X5FdFSTx7o0f@",
  "Q2hU]e?PxYR<q[pSS[dGUXUTRDMQyUBXaaIVvleSg]5QyUBV:ogqTR4bynJjAQjS=W=RipTnvRiUZUd3rre<Tv_4VE3X5R4",
  "Na3cs1U8kC^f9U8S9hs]13ix_NO1dFmfdFQ3hUBTYS3IkoQipS]apS^]UBS4plRZ_[UBk<u:NR<QLQ<QVaISvlea=UBSUog",
  "gOR4W6nJbVQjqI<pTQus4l?5rru8[eVEh8TlZ5ZNZkp4nlu6Q2ueRDT0>igpS^]UBS4plRZ_[UBk<u:Svlea=UBRedGSUog",
  "gOR4W6nJbVQjqI<pTQus4l?k=UdW1v]5rru8[eVE2dtQFV^QRMPogx3KQzpgAsVeEnjf<TkAHQCSqSdpkw?UZpgQTpknhe_",
  "ZUe5ZVf;mXz5_Ynt[Se8]9ea]A_1ZlbA]B]k^l]:e9^6bZb[a_d;bxYv_2ZWb@YtZP_XZibWZ6ZYZXZAa@_GdbYuZynn",
  "5]eREc^XtaUbCYLY@Q?VId_S[RQ@Q]b8JXCTrWlaAWfabjFkLc0p=X__KX>b]Wdlxw:w;mP;Xwd9XwT3UJNQhWrayWGi4@Vn",
  "c;h8TlZ5ZNZkZj[V[g[T[fp4nlUmji5t7S8jhmWX6<xUqDX6Gxgu63W<^z^NZ5ZNZkZj[V[g[T[f[z]eREc^;gz",
  "Vq]eREc^QS^V498YQ]eREc^QS^V4QG8Vq]eREc^XtV[>Q;h8_@T]0ZdQ[AsVeEnjf<nhe_ZUe5ZVf;[Se8]9ea]A_1ZlbA]B",
  "]k^l]:e9^6bZb[a_Z@r;d;S_R=bxYv_2ZWb@YtZP_XZibWZ6ZYZXZAa@_GdbYuZyd_WlaAWfabX__KX>b]oyGhqtq2QUotkh",
  "YHtgSoQwXP[c2esmi[cw:w;YQQC^tKQ;YHtgVRSnpHQBQXjVR:cV;X;_P_4R4S[_PTf_PU:_PUX_PSG_PS=XQR4byR4S=_P",
  "X?_PTu_PV:_Pm]R43nASs_PZB_PS=[qR4RjR4U;[4W_R4XjR4_ZR4U;R4SGY2lYRZxfi;[W^^_paud@d?d=d>",
  "hUBRQL[8sVeEnjf<VqTrZUZV[SRxTrRxdIS4TrS4dI]xTrNTrNdITkTrTkdI^OTrReRE:wUTrZ@TrZ@dIqGTr[e:UmTrRZTr",
  "RZdIGTrS9TrS9dISPTrSPdIRmTrSUPTrSUTrcL:W6:SRTr<Tr^5:YQ:WlaAWfabX__KX>b]_Z62CUNow?UNWdlxXh>V^PTr",
  "Td^z^NZ5ZNZkZj[V[g[T[fQwXP[cw:w;w7VqJdId_U;6VqQCTrqy[8RQQ>QTSt[6ZUZV[S]9]A_1ZlbA]k^l]:e9^6bZb[a_",
  "d;bxYv_2ZWb@YtZP_XZibWZ6ZXZAa@YuZyqKsBhqtqQwXP[c2JbO?QhhIQA6x3QBVcUZ>sVeEnjf<nhe_ZUe5ZVf;mXz5_Y",
  "nt[Se8]9ea]A_1ZlbA]B]k^l]:e9^6bZb[a_d;bxYv_2ZWb@YtZP_XZibWZ6ZYZXZAnna@_GdbYuZyd_WlaAWfabjFkLc0p=",
  "X__KX>b]oytzTkAHQCSqSdpkw?UZpgQTpk2dPw:w;tqQw=hmQwSxVxUNsBhqXLdfg1UN2XbQzQS^VQCW0UNQwUeQzUN",
  "YQDcaHQPSqSmQzwm[z[_BeE^z^NZ5ZNZkZj[V[g[T[f2=ZdQjWWQSU>RQQj2Vr_hTW4QgU6QR?khQwXPgGQOZ<S5Rm]yXn",
  "diQBQRUxSEuqsw[W^^_paud@d?d=d>qHituAXNji3t7Sgjhp9X6RixUqQX6S=xguG1W<BRXLS:Q>LSt[6e_ZUZV[Se8]9ea",
  "]A_1ZlS4TybA]B]k^l]:cN:Td^6bZb[a_d;bxYv_2ZWZ@V]b@YtZP_XZiar:bWZ6ZYZXZAa@YuZynnd_WlaAWfX__KX>b]",
  "[z^bsLGhq<g:V]w:w;a<QXeKhmQwXP[c2esmi[ctqWWQSZ>W=Q5diISd@QTSt[6ZUZV[S]A_1ZlTdbATd]k^l]:cN:Td^6bZ",
  "b[a_Z@V]d;bxYv_2ZWb@YtZP_XZiTdbWZ6ZYZXZAa@YuZyqKS_R=QwXP[chUYa?VHh0RJz=e_ZUe5ZVf;[Se8]9ea]A_1Zl",
  "S4TybA]B]k^l]:cN:e9^6bZb[a_Z@V]qKd;bxYv_2ZWb@YtZP_XZiar:bWZ6ZYZXZAa@_GYuZy[z^bd_WlaAWfabX__KX>b]",
  "sBhqsLqs^z^NZ5ZNZkZj[V[g[T[fhUE^vQP>sVa3]ISESnNeEnjf<Tdnhe_ZUe5ZVf;mX_YW3qCe8W3qJea]A_1ZlbA]B]k",
  "^l]:e9^6bZb[a_d;bxYv_2ZWb@YtTdZP_XZibWZ6ZYZXTdZAnnTda@_GdbYuZydizhXoQ<?Xlan^vQP>RpTnhqtzd_WlaAWf",
  "abjFkLW3me_KW3mZb]oyW32dPsfowXCpnqs[zT7?TZVqmJ^S;^bk@^bSz[:QATentYQQC[:Rdp=pHzhE^vQPSEZFi;[W^^_p",
  "aud@eB5[6fdf>X?6i=Q9BRXb6QDSE[6e_ZUe5ZVf;mXz5_Ynt[Se8]9ea]A_1ZlbA]B]xR=]k^l]:e9^6^OR=bZb[a_d;bx",
  "Yv_2ZWb@YtGR=ZP_XZibWZ6RmR=ZYZXS_R=ZAT3R=aa_GdbYuZyd_WlaAWfabjFkLc0p=X__KX>b]oyNeEnjf<Ghqtzj:^b",
  "2dPQwU>[Dw:w;trj7QlSQtDTetq^z^NZ5ZNZkZj[V[g[T[faor9Y9QqcqS:JzlUNTd2QRb9RGSoQwSxVxUNVqmJ^S;^b",
  "[zQ>AHQCSqSdpkw?UZpgQTpkQ2Q=RXQ]QAaQRE;QTxhnhe_ZUe5ZVf;mXz5_Ynt[Se8]9ea]A_1ZlbA]B]k^l]:e9^6bZb[",
  "a_d;bxYv_2ZWb@YtZP_XZibWZ6ZYZXZAa@_GdbYuZyd_WlaAWfabjFkLc0p=X_wa4_KX>wa8b]WWRseEnjf<sLGhqtz",
  "j7QC^8tq2dPQ:Q;^z^NZ5ZNZkZj[V[g[T[f>hURBQ<Q<[5z=e_ZUe5ZVf;mXz5_Ynt[Se8]9ea]A_1ZlbA]B]k^l]:e9^6bZ",
  "b[a_d;bxYv_2ZWb@YtZP_XZibWZ6ZYZXZAa@_GdbYuZyd_WlaAWfabjFkLW3X__KX>b]WWRseEnjf<sLGhq<U>RQQjw:w;",
  "Qw=VhzdXwSPSZ2Qha4Q]gGQOZ<S5Rm]yXnRmQOZ<Rq2h]T6QEQaYiQwXPgG]yFRwScayR[[FrsQs[vUqOQGg3xFUqO",
  "1QzPQoR[g3xFUqOQHTSxFUqOQHbsxFUqOk@aXnyQzPOXarSTSxFUqO1bsxFUqO1xwRIxFUqOVfj^@RLRIxFUqO",
  "1VwQLQoR[QzPOQGV8glfQ?QhOQGoZglfQ?QhOVqy8behX65mGbehX61V;5hX7YQhX7bD7Y[RXU_RJz=e_ZUe5ZVf;mXz5_Y",
  "nt[Se8]9ea]A_1ZlbA]B]k^l]:e9^6bZb[a_d;bxYv_2ZWb@YtZP_XZibWZ6ZYZXZAa@_GdbYuZynnd_WlaAWfabjFkLc0p=",
  "X__KX>b][z^bf<sL5R_RQBSxYLw:w;tq[zaQouBQ;^z^NZ5ZNZkZj[V[g[T[fhUIVWTpaRRlRcn?]=2ZJKRcTyaoKRcn?]=",
  "2bsKRcn?]=fYRcn?TS]=2ZJKRcn?]=1TS]=2[_KRcTyXarSTS]=QwQDRcJRlRcTyXarS]=1TS]=2vhg5QDRcJRlRcn?TS]=",
  "Q2pIbRQASt[6e_ZUe5ZVf;[Se8]9ea]A_1ZlbA]B]k^l]:e9^6bZb[a_d;bxYv_2ZWb@YtZP_XZibWZ6ZYZXZAa@_GYuZyqK",
  "[z^bf<d_WlaAWfabX__KX>b]oyGhqVquqLR=tqsf^z^NZ5ZNZkZj[V[g[T[fQ4hUcoQkq[Yh_1]BYtYv5hXTZZP_XZiZ6]:",
  "^l_2ZXZAYu^6Zyf[ZWb@Zl5hXTybAbWe95hXeHW3s>VRU5Q_V[1YLaCbOR^YLYQ:z2WlaAWfabX_RjVEX>_KRjQjWWWptDTe",
  "c;^z^NZ5ZNZkZj[V[g[T[fh8itnlWW]nmiYO<XPYOS_?Qq6Qws5vrVqB:bZb[a_d;bxnn^nRXQpU4z=e_ZUe5ZVf;[Se8]9",
  "ea]A_1ZlbA]B]k^l]:e9^6bZb[a_d;bxYv_2ZWb@YtZP_XZibWZ6ZYZXZAa@_GdbYuZyqKd_WlaAWfabjFkLX__KX>b][z^b",
  "f<sLGhqtqQ7ueQDQORrRsAQ]wpQ?ETr1:1^Znx71TL1h31V;bD7_5_q1^8wcWA81QURknx?X4bDUj1QUV>1]dR61YN4Y@]^",
  "1V]1X91^_Y:7aD71Vxh31S:hd1TYTe1pfVfQBtdkK61YPh3]aQiQ?ETr1:1^Znx71TL1h31V;bD7_5_q1^8wcWA81QURk",
  "nx?X4bDUj1QUV>1]dR61YN4Y@]^1V]1X91^_Y:7aD71Vxh31S:hd1TYTe1pfVfQBtdkK61YPh3RZxfi;[W^^_paud@d?d=d>",
  "qHituAXNji3t7Sgjhp9X6RixUqQX6S=xgQ<Q;UtQj0fGkkUSR<XC[6z2WlaAWfabX_W3X>W3fdnsmYUXR=w]uBmcsOTdsPz6",
  "TdU:V]U:r;S=VIkIuImdU:R=f>i=TuR=maS[R=h@fbV:TLdeh?X?:f?RiWPlEddUaV[qYsMVRTrb_1V;^@bD7_5Td1c=_q",
  "W3wR^bTfeE3UxQTTZsLS9QhUUQEQsQ?S3x55U5Q_TL5tEYL5U5Q_YLk>Tnhqd9oQS4QlSQtDTe5h]T6QEQaYi>Q;RZxfi;[W",
  "^^_paud@d?d=d>Q5hUQ?SxQRTmQOSt[6e_ZUe5ZVf;mXz5W3[Se8]9ea]A_1ZlbA]B]k^l]:e9^6bZb[a_d;bxYv_2ZWb@Yt",
  "ZP_XZibWZ6ZYZXZAa@_GdbYuZynnqKd_WlaAWfabjFkLW3X__KX>b][z^bf<sLtz<U>RQQj2Vr_hTW4YQDcaHQPSqSmQzwm",
  "Q2BRXQFQTW[l]QOZnQc[6sMVR61][^@_51ex_q1c=1gd1YM63pnw>YhnsmYUXR=w]uBmcsOsPz6SW]OU:V]U:r;S=VIkIuI",
  "mdU:R=f>i=TuR=maS[R=h@SWWPnwR=U:d8kGR=VvR=qY3M:fbdeh?X?:f?RiWPlEddSsQBWPj:BgveCYiwRgzTfeEsS]=",
  "Tf^RF]=3^bX?cFNJSYQZMtEQiYLNJSYQZMQ=]5QiTL1YL1V[1ou5tEphYiNfQR^phYiRm]yzEShRiRQR63eswuUaVWzESh",
  "5tEj]a1QsphYiNfQR^j]a1QsphYi<Ro_@T]qyQBCPQkR0z=YQ6Xj4WfX_X>_Z4_Kb]jFc05pnVqYh_1ZlbA]B]k^l]:e9^6",
  "bZb[a_d;bxYv_2ZWb@YtZP_XZibWZ6wTj>R=RZd8SvR=i:5M:ZYZXZAa@_GdbYuZyRxQBWP[zQ>AHQCSqSdpkw?UZpgQTpk",
  "QgJSYQZMtEQiYLh?f?lE[y]5BnLVRShhBY@ShhAi@i>gVeec0VfR4fe1M:[z^bf<j7SFQR^Dw<_@T]Xh]yzEShu7R65eswu",
  "S9kuTZ2phI]yFU_V6oJR;Y;bsQ=ZR4QIQ=ZR4QHQ02QZI]5IQOZ<S5Rm]yXn=RXBupRJQTQSk6S1QoQ?SmVYAVP[DWeV;We8",
  "3t=dd3dIe<QA6e<QAV;e<m=e<R88e<YLe<Qz:<D4<nM<D8<[wUsuhRs[iRQXCQi[wWA:1V[1Tz1V]1d81ouY@TyuKwcWAR=",
  "Vf:Y::lF:1TZ1]O1VIaDR=1YL^?:lFR=1:_5b__q^@bD:1lw^?]5T:9R19Qf9Qj9V>9Rd9VEp>Sh9RkViR5R^bPJim9Q0",
  "RiSxHfNxiViR5R^bPvPSQQRTb9v?TbRiSxHfNjpwvSQQRTb_6TwJim9Q09vPSQQRTb9v?TbSGScMgrRDo3UXjpSN_CSVke",
  "SGScMgrRDkOvPSQQRTb9v?Tb_oMQ=QtR^bPJim9Q0UXxi_oMQ=QtR^bPvPSQQRTb9v?TbUXjpwvSQQRTb",
  "Q2Z^RXKRQbNQBZ>St[6e_ZUe5ZVf;mXz5_YTd[Se8]9ea]A_1ZlbA]B]k^l]:e9^6bZb[a_d;bxYv_2ZWb@YtZP_XZibWZ6",
  "ZYZXZAa@_GdbYuZyd_WlaAWfabjFkLc0TdX__KX>b]WWRseEnjf<sLtzw:w;a<QXeKhmj7QlSQtDQAdAS8tDQAXnKQ;^z^N",
  "Z5ZNZkZj[V[g[T[fh8TlZ5ZNZkZj[V[g[T[fp4nlUmji5t7S8jhmWX6<xUqDX6Gxg2V5Q<QoR;VkYipIIQOUCUlphYi",
  "Xh]ywuVqYh_1Zl]B]k^l]:^6Yv_2ZWYtZP_XZiZ6wTj>R=RZd8aaSvR=i:5M:ZYZXZA_GYuZyf[W3w<_@QsQiYhnsmYw]uB",
  "mcsOsPkIuImdf>i=TuR=mah@SWWPnwR=U:d8kEVvR=qYTdfbdeh?f?lEddp5d_WlWfX_X>[z^bNeEQ5x3IS3QOSq^AQQRJz=",
  "z2WlaAWfabX_Td_KX>Tdb]fdnsmYUXR=w]uBmcsOZBR=sPz6SW]OU:V]U:r;S=VIkIuImdU:R=f>i=TuR=maS[R=h@fbdeh?",
  "X?:f?RiWPlEddUaV[SsQBWPZBQ?TLu@:sMVRTrb_1V;^@bD71QC^teB_5Td1c=_qTd1gdwR^bX?cFS=hqTfSxYL3UxQTTZsL",
  "^>DR=cLMrU:Q:Q;RZxfi;[W^^_paud@d?d=d>hUER;Q>QMSEEQQRJz=z2WlaAWfabTdme_KTdmZb]fbX?:maS[R=h@fdnskI",
  "uIh?mYUXR=mdU:R=f>uBmcz6SW]OUaV[sOZBR=U:V]U:r;w]i=TuR=dddelEsMVRTrb_1V;^@bD7Td1U[1c=Td1W21gdwR^b",
  "X?cFsLUtQjlYRZxfi;[W^^_paud@d?d=d>W;hUIUSS3X3QiYhZl]BZPZiZ6YvZWYt]k]:^6ZYZXZAa@Yuf[2RrYhYQ6WfX_",
  "X>Y9S3RBIK^82biT<miYOKQ9RXJR5XCQiPR=Q2SOREc^SQnRTwy8V5Q<MSxMR7dHdG3Z1V5Q<MSxhLQEQ]dGqQQ]dG",
  "p9y=rEUB3R2Q]dGXNRccb_8XPQQR6f]]pQ]=jvp9y=rEjvdaR7dHdGp9T6ZrdAp9T6ZrXnSWQUUBqQUBf]R7dH=jvp9T6ZrO",
  "dav@UB3]fQ03VpdA3VpXnf]]fOebWrQMR^VVSIWpAThR4sB[CNU2Qn7a>QFRQUSL7VCQFRQLL7Rm??QC?QFRQLL7RxR<R;6",
  "S9Z_USL7RmZ>LR<R;6Rx>Rt7S9QT^_S9SA5SD>USTQS9>QO^_Rx?QF[DSzRD6a<YlBbuQCkhbU[aRsbuQCkh2JSxSo",
  "QwQMQaDzR2a9RJRGQ_V7Q<QnSoGtgSoQgR<QAUqSo2R[]dQ<SoQwDUqSo2VK@x52[il0QBSLRBQQSoQw@QOUIQ=]YSo",
  "WWRf?QPQMpkSzUSshPQOTr=Q;mP;h]T6QEQfTNR;=A_yVR:p;Y:YIYUr3uK1vH1gqX3E]u_Mk1VflZQuRSQuU7ZC_^RS",
  "acR;Q4^A]uYUTbYUr3uK1tB1UTTvp<XQU7VfQyQBR41yAyA7lDQuKRSZCKQMlZYUr3_MQcW@SHVfRQRq1rwQuR6QuR1",
  "ZCQNQRRSVfT5SEW@E]c5TbZCTb1v1RSYU]cuKWAUZRqWA6VfUd1k15QMTQQuQLkzQuISZ3Uhy3Ud5TQm[TQgSUhO",
  "3W@Q?TmSERgl0R^UyW@Q?Tm:kMxx5iTUd5QlTvqBYIZCLXFqBZdU7QuQBQMRSQuQBR4VvScSEruSsW[SEru",
  "m[afY7EaFU@UM[xQ3UM[xaFU@UM[xQ3YVXS9YEZEQHBdzafYEafYEZEQuZuRSQuZuXQU7ZiSPYISPTmRqSP>x_SPTbjBRlTb",
  "SPQMlZSPSZSPQO>RSSP6p;YUSZ1tBSP7jBRlXC>U79W=p6uuSPSdtcjBRlSdtcSPXFSPR<RSZWRZlZSsR5UTQ6pASEW@IZE",
  "9SqSZ9KQMlZ9ze9TyQGW@IZE9E69ERcRS9ibR69R=9hcQGW@J79ZdR19V[9J7QGW@I_^RS9JWgp>49xpq]DXS9_V9rw",
  "9?zLERcRS9k1RZ^_RZSZRZQO>RqRZQO>S0RZ6mQU7mQQj3Uhy3UdmQIRSRZTvSseGQ_XCER;XCoRRZ]cRZ7m[_xlDp8Zuii",
  "RZosZCklRZRoRSRZtcRZ[xorRZ?R4RZW=RZR;RqlDYU]uRZR;S0RZR<RS[SZCDXSm[QcQ?R;;U@TnW=TJRSZCSEW@RQq]V]",
  "YUSZ_M6VfTbVfUd^@TJQ<TvTJEhc5[C5SHZCEQTRS9ru_M4p6SH3Rgl0R^SHRixx5QNSH5QNQRRS5klTJQFSHp;e?JTb",
  "QHVDJTb1TQY:YIacR;Q4^A]uQGE]uuK9E]u1tBWAzbkMxxWA?Rq1V[aCQ_VDJTbaC6aC7bDRSwlZllDS4>RSZCSEW@v0W@R=",
  "QGR=QGvH1W[Q3UMQUyAREU71TQ1ZE1_^zLETbY:YI1Voq]YLY:XFe?YL1V]ac61v1;Uhy3Udacos1[Ce?V[1SH9VDEr3YUr3",
  "YUSZYU6YUAS0e?:YURcaFdUQS71RQq]JyAkl1HTbe?V[1rGW@vO1HRoRS1tB1ksW@HyAZEWAiPWAzbWAAR6e?JTb",
  "WA?k[W@TQ1V[_MQcW@SH_M6Y@W=9U@TnW=1[wVfTbVfSZVfUde?@XFVfVxR6VfWg1rw^@wle?_xm[XQRSS4W[:p6EW[:S4YI",
  "m[XQQYEX3YExXS4TbUXfFYEXQQYEX3YExXS4QM^_S4^_S4TQS4QTRSSW^om[EQTRSp6EQTRSS4SZS4QORqS4_^TQS4eN@Tv",
  "ZCLXFS46ZC4^@p6E6S4AS0m[EAS0p6EAS0S4ARJQjS4RcRSlDS4RcRqZCSEW@vHYUr31vHaCyAvH1[wS4R5TbS4]cp6E]c",
  "ZCKYI1rwSW^oS47p6E7S4?RSZCZdR19VDtBY@W=VfQ_W@Y7ERSlDS4orZCSEW@LXFWAXFm[ibQYJ[xTbS4y?S4Wg3Uhy3Ud",
  "S4XFS4R<SBS4R<W=S4R<k1ZySW^olDSTTbST6ZCZE1_^RSY:YIac]c1XQR6WATvY@W=VfUd^@ST7STRoRSZCTQ1HTbWAzb",
  "aC]cwlSTSdRSZUp5YZU7YZRJQjm[Av1RlXFkMxx5ii5vH3RJU7Vi6m[QWAhIRc;U@hIRc;?QYYEorlD5WqZCEr35TsRSYZQj",
  "ZCrwp6g<3Rgl0R^g<Rixx5UTTv5Tv5hc5]c]Ap;1YIe?L?Rq1_^RSY:YIY:QMlZ1WGY:61QNQRRS1klwcYUTbYUr3YUSZ",
  "9dUZmk[W@:YU6YURcRSYUksdUQSSZqZdzE]cYU7YUR<SB1vH1g<WAiPWA6WAAR6aC6aC7_M4e?_xQGE6QG]g_M6e?Q?R;?Y4",
  "Y@4Y@W=aD6bC7Vf:VfSZVfR=VfUdVfVxR6Vf_RVfiiVf?HXF_6SZ^@bDRSwl1S7S7pA[w1k1jL6Rx>RSp6ZdRSRx>U7",
  "RxUZRSRxUZRqRxUZS0RxUZS>jBWpUZS>RxiPZCtBRxTbZCKYIp6LTbRxSqRSRxSqS0RxzbbyXQV<VDXCYEQqXQV<VD7",
  "jBWpeGQ_QqXQV<VDXCYEQqXQV<VD7RxklRx6ZCKYI^@wlRxAR6RxTvRxR5TbRx]cRxR5UTS>jBWpR5UTS>Rx7",
  "m[rGVD_^Q3WpXCYErGVD_^RSRx?RqRx?S03vsRx?SBRxy?lDRxW=RxXF3Rgl0R^LXFRxSYaQRSRxQD?Q4fDZAW6XQU7p;",
  "e?v0W@R=QGxXQGJTb1Tb1TQ1afQFScSEruY:YIY:6acSZ1SHwcYUSZYUore?ibR6uK1HTb1rGVDQ?W=1tB1g<e?R=QGJ7WA6",
  "WATvWA?RqWAy?e?rGW@:p<XQU7aC]caC7aCy?_M4e?SH_Mk1Y@4VfHQcdUQSWgVfT5SEW@EksW@QNQRRSQHruVfaQRS",
  "9dUQSaQRSVfWg1RESh1rw_6QcW@SEdUQSyAVI^@e?:QGyA7bDzLZEwl1k1RixxW6xX3Uhy3Ud9dUQSWglD",
  "1YEgqX3ER;?QSUdW6HZu7T3TbZCJTbW6QjZCLXFe?QA7T36T3WqT3UToeRST3]cT37ZCKYIT3?RSZCTbY:YI1kl9ruYUr3",
  "1rGVDKYI1g<WAUZRSWAUZRqe?ZEWA6p<q]ZEp<XQU7_MQcW@SHY@4Y@7kKq]ZEkKLzLuu1Y7ERSSW^op6kuRS3Rgl0R^kuRS",
  "Rixxp8ZuiiT3?RqT3[xTbjBXt[xTb3Rgl0R^J[xTbp8ZuiiT3?R4T3y?T3WgjBXtWg9EX3YExXZ6ZCrwlDi7RSRm_PRmSZ",
  "RmZERm_^RSwLbVOwMRmTvRm7jBRf7RmtclDRmR;QBosRmR<ibRSRmk1p;WAXF1d8jBRfk19VDSEW@VIp6Ik1RmmIRqp;e?xJ",
  "ac6lDYtG>RSGTm:3XzT6R63Uhy3aQkN3Rgl0R^Q?Tm:GTmSZGSqTn?VYJ7z0GSqRSwNp;wlp8ZuiiypZC4GARSGg<ZCEr3",
  "YUX3W@Er3GQRVHRSZCTQ1ZEe?ZEYUor_MQcW@Er3Y@4Y@W=VfUde?SETQQGZEQHW@ZEbDzLZE1k1GR5lZG7asdhqI",
  "byEX3VDxX9IZEkMTbQGU@TnR;;gqX3Uhy3Tb9k1SW^ojBTnW=p6Q?W=9gqX3YEgqSZGR;?Y4Xfud_^XQU79ze9Q<tc9ibR6",
  "9tB9LUZRq9V[p>49RBQqRq9?RSSsR5UTQ6pAzeQG7ZPS9YIS9TQS9XSS9klS96p;z7U7Y:6Y:7_5b_1AU7^@bDRSp6nM",
  "S9RciiZCLTbwl1d83Rgl0R^DRciiZXcLU7S_6S_7Yu<TmTn?VYJ7z0p;1_xacosuKWAiPWAXFaCWg_M6Y@W=VfTbVfVxR6",
  "1REU7bDRS1os1Wg1XF1k1jBQSlZlD<TbbyXQV<VD_^RS<Rr>RS<SZ_Gu7Rqp;Y:YIYU]cY@4VfaQRS_6XF^@e?:u7S6u7KS6",
  "<x_<UdWe7jBhIQcXQQYYEXQQYEX3YExX9REV<YEREV<EX3YExXgQES^Y?SHgQQBR4gQZuRSgQZuQqQj<VxR6p;1g<<VxQjp;",
  "Y:TbY:SdtcacTvYUSZ1vH9E]uWASYaQRSaCy?_MtcVfTbY?QRiiY?hcasQ2Q2kNbFY?RckN",
  "asQ2lOU@Tn?Q2Q2RlR<;U@RlXFbFY?Rc;U@hIRcRlR<;U@RlXF<T5:Y?7m[Xz^IQS_RY??RSY?RoXFytlD<ii<QWS0",
  "jBQSQWQ5QSaQRSV@LRSV@QqRq<7jBQS7<or<hpRS<?HXF<Wg<S7ZE<XF<R<S^YvRjQB]hR1ZC[D_M6lD[eU7",
  "m[REKTnStU@TnStQ<ksYEoRRixx[eShZCzeYUorVfUdVf_R1Y7ERSwl[eLS0ReSZu9lDywSW^ob?Rdb?TeZCrwm[Q]Te",
  "9XQQYYEXQQYEX3YExXRe7Re[xRSRey>ReWgReXFjBUMR<;QFSEYEd8ZVUXor3XC7m[XCDSEYEDSEEX3YExXkMR<;U@QSXF",
  "9XCYMYEXCirXTVCRS5osVCR6SsSYaQRSZCKYI_M61yAyA7QJE]ulDp8Zuii1VDKYIVCQ<tcVCQjZCQqXQU7_MQcW@V]",
  "VfRQRq^@5VyTv5S7WgZCLzb1[w5W=lD5XFp6XFp8Zuii5R<RSZCSEW@R=QGVI1TbuKY@W=bDRSe?ZEQGze5R<S05R<6",
  "5R<ARq5R<7p;1_^XQU71WGacW=wcYUTbYUr3YUSZYU7uK1vH1g<1]cWA6aCWg_MTv1[wVfUdVfQWS0_671yAibR6wl1R<?V]",
  "5R<?V]ZC75k1p;WA7WAXF1rw5mIRK5mIRS5mIS7RK5UeZ>6VCQFRqZCLzbVCQF7i:SW^oRiroVDLXFSvlZSvSqRKSv=RSSv6",
  "m[QF6SvARqSvAU7SsW[SEruSviiSvThRSSv7Sv?S>p;SvRoXFSvWggO;=ZRQn4QuV<VDQ?W=QuKud:QuIX3VDLtc",
  "RZTmWpR5UTQ6pA?zLIZERZTmRqRZksdUQS_RRZRo;Uhy3UdTJQFUlVDibR6VfUdS4>udUyW@LUSq]:1_^RSS4=moS4iiSTk1",
  "RxSEVDiTUd1_^RqYU]cYUor1rGVD_^RSaCWg1[wVfaQRd_671R<RSW6XQV<VDE6T3?Q3QSQyZuQWpAKYIZCeNzLJTbVf_R",
  "bVQBR4RmmIk[VDd8G>S0GTvGQRS^GQRVHudKTbYU6asQ2lOgxS9eNaF_<S9RcRS<TmpAtBb?RS5S7pAI4VC;7",
  "Q7sfYHotS1VRV8ZEgSZEmfZEfcZEp:ZEqWZEqRZEqVZEgSoRmfoRfcoRp:oRqWoRqRoRqVoRmf7fc7p:7qW7qR7qV7atEkl",
  "kCEklgSEklmfEklfcEklp:EklqWEklqREklqVEklatESL_RkCESL_RgSESL_RmfESL_RfcESL_R3ixQSx_3SwTjx_9vs",
  "SgTKQSx_SgA_jx_p9QSx_Riv=QSx_qQWwx_S=QRTjx_3QQTjVc73ixQSVc73SwTjVc79vsSgTKQSVc7SgA_jVc7",
  "RiVcudEQ_W@oRQHITvatKR<73ixRlR<7gSKR<79vsSgTKRlR<7fcKR<7gSk2pceNfCQGeNkYmfk2_yXtUTI7QGJUToeS0",
  "QGJUTIXC:QHU7p:k2pc_^S^qWk2pcUTQRRqQGUT[i:QHU7qRk2pcSYQB7QGSYQB?RqqVk2pcTsUTI7QGTsUToeRq",
  "QGTsUToeS0QGTsUTIXC:kCafrugSafrumfafrufcafrup:afruatKQTRS3ixRlQTRSgSKQTRSSgTKRlQTRS9vsfcKQTRS9vs",
  "S=QWScSqTvS=QWSc>aNatSLQyRqkCSLQyRqatbqQYoRkCbqQ<QooRSgA_jg=QPQooRatbqQYk2_yhDkCbqQ<Qok2_yhD",
  "at]pXEZE1]f;ZE3]ezaPWYUyQQTjg=UBQG]fQ0at]f^AXF1Vp^AXFU;ZRQnQcTwbqR61V8bqgk1t71v@X6mfXCvsfcXCvs",
  "p:XCvsqWXCvsqRXCvsqVXCvsTdmPVR]ezaPWYQTQVQXQYznT]3VtBa23fHBa21RwS1a21dWBa2BQ;[z>V<VDQ?R;kNVfaQRS",
  "QuQYVDklSPfFVDQ<ksruSP>VcudW[RSY@61d8SPXCU@RlXCVD]XRSRZSEVDrwRZTmpALXFmQIpAvH1XCXC7mQIudor",
  "RZ[xpAiTUd1ZE9c>Z0acTvacW=1QNQRRSwcYU6YURcQ3^A]uYU]cuK1[D1tBWAzbWAXFWASYaQRSe?Lzbp<Z<iLp<Qj",
  "9VDLXFaC?T4W@E]c_MZE1ROO_M6Y@6aD6VfUdkK^A]uTJudLXFaDXS5QNQRaFRK5eNQ3RsdzklTJQFQUQSQyZuQWpAZE9[D",
  "9tB9V[9JTb9I49ROOkM73Uhy37S4>ud^nx_1v1^A]uac[xpAtBQGLzb1QNSHwcYUX3W@xJQGQ?41RQq]:WASYaQzLLzbp<Qj",
  "9VDLXFaC?R4_Mk1Y@4e?=RSQGE6VfVxQjjLThRSS4W[SEgxS4eN@[iVD7S4ksVDEgpRsdzE]cS4?udtBS4?QYW@EksVDrw",
  "^5UMQUXCE]uSTStVDafYErGVDZERxSEVDuuWA:1XCXC71XFW6XQV<VDQFXCYEQF7_mc5_miM_mlN_mo:_mVMSj_mVMS5",
  "W6LW:lUW6LW:Q8Q:;YEQqLW:Q8Q:^A]uW6LW:kdW6LW:Q9lOYEQqLW:lXW6LW:n0_mW;Sj_mQ2ft_mQ3eA_mQ3g__mQ3kX",
  "_mQ3mp_mQ3mr_mY[Rv_mQ3k__mQ3ka_mQ4iO_mQ4dB_mQ4c:_mQ4mw_mQ4mx_mQ4mz_mQ5jS_mQ5fuZCE71vHaDQlq]kuRq",
  "QGxpq]kuRqbDzLeH_mY]Sj_mY]SB_mQ5kc_mQ5mw_mQ5mz_mQ5n0_mQ5qu_mQ5n1_mQ6fv_mQ7fo_mQ7fsZCZEY:YI",
  "acR;Q4^AR;XCE]uWA?Rq1V[_6SZ1]gbDRSwl1R<?V]_mQ7ms_mQ7c:ZCQ<oswc1vH9E]uY@6aDQlq]xpq]kuRq",
  "VfQyQBT4W@L6wl1R<?V]_mQ8kZ_mQ8fuT3?Q3^AR;XCVDZEZCoR1HTbaDXSe?xpq]kuRq1rwRmStW@QF>SB",
  "RmSYT4U@RfSYT4VDTyQGZdR1GQRVHudv1^A]uYU]cYUy?1[DWAklp<Z<VMSj_MZEaDQlq]DXS^@e?71R<?V]",
  "<Tm^AR;XCVDR=ZCSHVfHQcc>Z01rwu7Q7kNY?QcU@QSUd3W@HRoRSY@SqRSVfSZY??zLQ<[xpAQ?6]0udTQ<StVDrw",
  "[eLQ5;dUQSlZReS7pAEr31VQoR5R<aFXzT6R6ZCor5R<XCVDQ<QO>Rqp<Z<Q7]FaC?RqSv>SBSvXCYEQFXCdUQSSZ",
  "Sv?Q6pAVQQ<ksru>Q5r:BPb8MhhCQTsVIc3W^c4W^c6W^c7W^c8W^c9W^cRW^ekW^fAW^fBW^g]W^S]Q3U7W^fpW^g^W^hR",
  "W^hSW^iMW^kVW^kWW^lNW^mkW^mlW^mmW^mnW^o:W^s[W^pCW^ubW^s]W^s^W^s_W^ucW^URSjW^URS5W^URS0W^URS6",
  "W^URSBW^URS^W^VMSjW^VMS5W^VMRSW^VMRqW^VMS0W^VMS>W^VMS6W^VMRvW^VMS^W^X8SjW^X8S5W^X8RSW^X8RqW^X8S0",
  "W^X8S6W^X8SBW^X8RvW^X8S^W^ZDSjW^ZDS5W^ZDRSW^ZDRqW^ZDS0W^ZDS>W^ZDQ6U7W^ZDS6W^Q1XRW^ZDS^W^Z^Sj",
  "W^Z^S5W^Z^RSW^Z^RqW^Z^S0W^Z^S>W^Z^S6W^Z^SBW^Z^RvW^Z^S^W^[ISjW^[IS5W^[IRSW^[IS0W^[IS>W^[IS6W^[ISB",
  "W^[IRvW^[IS^wBbGwBgZwBfnwBhMwBhNwBhOwBiIwBfowBg[wBeAwBelwBemW^Q4gZW^Q4fn",
  "=RXg4j2Q]UyVxQNVmZHDT4>c3Quc4Quc5Quc6Quc7QuS?jTQuc8QuS?fEQuS?Q7U7Quc9QucRQuekQufAQufBQug]Qufp",
  "QuhPQuS]qrQug^QuhQQuhRQuS]hVQuiKQuhSQuiLQuiMQujRQukVQukWQulNQumkQumlQummQumni5Sji5S5i5RSi5o;i5Rq",
  "i5S0i5S>i5S6i5SBi5Rvi5S^e7Sje7iJe7S5e7RSe7o;e7Rqe7mte7S0e7S>e7jTe7S6e7SBe7Rve7S^k;Sjk;S5k;RSk;Rq",
  "k;S0k;S>k;S6k;SBk;Rvk;S^h;Sjh;S5h;RSh;Rqh;S0h;S>h;S6h;SBh;Rvh;S^QuZDSjSPc3SPc4SPc5SPc6SPc7SPS?jT",
  "SPc8SPc9SPcRSPekNc3Nc4NS?o;NS?Q3U7NS?Q3UjNc5Nc6Nc7Nc8Nc9NcRNekNfANS]iJNfBNg]NfpNhPNg^NhQNhRNiK",
  "NhSNiLNiMNjRNkVNkWRZc3RZc4RZc5RZc6RZc7RZc8RZc9RZcRRZS?qtRZekRZfARZfBRZg]RZfpRZhPRZg^RZhQRZhRRZiK",
  "RZhSRZiLRZiMRZjRRZkVRZkWRZlNRZmkRZmlRZT1hVRZmmRZmnRZo:RZqpRZTahTRZsZRZs[RZpCRZTaqrRZubRZs]RZs^",
  "RZs_RZucwCSjwCS5wCRSwCRqwCS0wCS>wCS6wCfEwCSBwCRvwCqtwCS^j9Sjj9iJj9Q1U7j9Q1Ujj9Q1R6j9Q14j9Q1UE",
  "j9Q1Shj9Q1R4j9Q16j9S5j9RSj9o;j9Rqj9S0j9qrj9S>j9S6j9SBj9Rvj9S^p2Sjp2S5p2RSp2Rqp2S0p2S>p2S6p2SB",
  "p2hVp2Q8U7p2Q8Ujp2Q8R6p2Q84p2Q8UEp2Q8Shp2Q8R4TJc3TJc4TJc5TJc6TJc7TJc8TJc9TJcRTJS?qtTJekTJS?sg",
  "TJfATJfBTJg]TJfpTJhPTJg^TJhQTJS]fETJhRTJS]hVTJiKTJhSTJiLTJT1iJTJiMTJjRTJkVTJkWTJlNTJmkTJmlTJmm",
  "TJT1qtTJmnTJo:TJqpTJsZTJs[TJpCTJTaqrTJs]TJs^TJs_S8c3S8S?hTS8c4S8c5S8c6S8c7S8c8S8c9S8cRS8ekS8fA",
  "S8fBS8g]S8fpS8S]mtS8hPS8g^S8hQS8hRS8iKS8hSS8iLS8iMS8T1hTS8jRS8kVS8kWS8lNS8mkS8mlS8mmS8mnS8o:S8qp",
  "S8TahTS8sZS8s[S8pCS8ubS8s]S8s^S8TahVS8s_S8TaqtS8ucu1Sju1S5u1RSu1Rqu1S0u1S>u1jTu1S6u1fEu1SBu1hV",
  "u1Rvu1S^S8VMSjS8VMS5S8VMhTS8VMQ2U7S8VMQ2UjS8VMRSS8VMRqS4c3S4c4S4c5S4c6S4c7S4c8S4S?fES4c9S4S?hV",
  "S4S?Q8U7S4cRS4ekS4fAS4fBS4S]hTS4g]S4fpS4hPS4g^S4hQS4hRS4iKS4hSS4iLS4T1iJS4iMS4jRS4kVS4kWS4lNS4mk",
  "S4T1fES4mlS4mmS4mnS4o:S4qpS4sZS4s[S4pCS4ubS4s]S4TafES4s^S4TahVS4s_S4ucwESjwES5wERSwERqwEmtwES0",
  "wES>wEjTwES6wESBwERvwES^S4VMSjS4VMS5S4VMRSS4VMRqS4VMS0STc3STc4STc5STc6STc7STc8STS?fESTc9STcRYZc3",
  "YZc4YZc5YZc6YZc7YZS?jTYZc8YZc9YZcRYZekYZS?sgYZfAYZS]iJYZfBYZS]hTYZg]YZfpYZhPYZg^Rxc3Rxc4Rxc5Rxc6",
  "Rxc7Rxc8Rxc9RxcRT3c3T3c4T3S?o;T3c5T3c6T3c7T3c8T3S?fET3c9T3cRRmc3RmS?hTRmS?Q2U7Rmc4Rmc5RmS?mtRmc6",
  "Rmc7Rmc8Rmc9RmcRRmekRmfAwKiJRmfBRmg]wKo;wKQ3U7wKQ3UjwKQ3R6wKQ34wKQ3UEwKQ3ShwKQ3R4RmfpRmhPRmg^",
  "wKjTRmhQwKfERmhRwKhVRmiKRmhSRmiLRmiMRmjRRmT1o;RmkVRmkWRmT1qrRmlNRmmkRmmlRmmmRmT1qtRmmnRmo:Rmqp",
  "RmTahTRmsZRms[RmTamtRmTaQ4U7RmpCRmubRms]Rms^Rms_RmucRmURSjRmURiJRmURS5RmURRSRmURRqRmURS0Gc3Gc4",
  "Gc5Gc6Gc7Gc8Gc9GcRGekGfAGfBGg]GfpGhPGg^GhQGhRGiKGS]qtGS]Q9U7GhSGiLGiMGjRGkVGkWGlNGT1jTGmkGmlGmm",
  "GmnGo:GqpGsZGs[GTamtGpCGTaqrGubGTajTGs]Gs^GTahVGs_GucGURSjGURS5GURRSi9c3i9c4i9c5i9c6i9c7i9S?jT",
  "i9c8i9c9i9cRi9eki9fAi9fBi9g]i9fpi9hPi9g^i9hQi9hRi9S]hVi9iKi9hSi9iLasc3asc4asc5asc6asc7asc8asc9",
  "ascRasekasfAasS]iJasfBasS]hTasg]asfpashPasg^ashQashRasiKasS]qtashSasiLasiMasjRasT1o;Utc3UtS?hT",
  "Utc4Utc5Utc6Utc7UtS?jTUtc8UtS?fEUtS?Q7U7UtS?Q7UjUtS?Q7R6UtS?Q74UtS?Q7UEUtc9UtcRUtekUtfAUtS]iJ",
  "UtS]Q1U7UtS]Q1UjUtfBUtg]UtfpUthPUtg^UthQUthRUtiKUthSUtS]sgUtiLUtT1iJUtiMUtjRUtkVUtkWUtT1qrUtlN",
  "UtT1jTUtmkUtmlUtmmUtmnUtT1sgUto:UtTaiJUtqpUtsZUts[UtTamtUtpCUtubUts]UtTafEUtTaQ7U7UtTaQ7Uj",
  "UtTaQ7R6Uts^Uts_UtucUtURSjUtURS5UtURRSUtURRqUtURS0UtURS>UtURS6UtURSBUtURRvUtURS^UtVMSjUtVMiJ",
  "UtVMQ1U7UtVMS5S9c3S9S?hTS9c4S9c5S9S?mtS9c6S9c7S9c8S9c9S9cRS9ekS9fAS9fBW1c3W1c4W1c5W1c6W1c7W1c8",
  "W1c9S_c3S_c4S_S?o;S_c5S_S?mtS_S?Q4U7S_c6S_c7S_c8S_c9S_cRS_ekS_fAS_S]iJS_fBS_g]S_fpS_hPS_g^S_hQ",
  "S_S]fES_hRS_iKS_hSS_iLS_iMS_jRS_kVS_kWS_lNS_mkS_mlS_mmS_mn<c3<c4<S?o;<c5<c6<c7<c8<S?fE<c9<cR<ek",
  "<fA<fB<g]<fp<hP<S]qr<S]Q5U7<g^<hQ<hR<S]hV<iK<hS<iL<iM<jR<kV<kW<lN<mk<T1fE<T1Q7U7<ml<mm<mn<o:<qp",
  "<sZ<s[<pC<ub<TajT<s]<s^<s_<uc<URSj<URS5<URRS<URRq<URS0<URS><URS6Rec3Rec4Rec5ReS?mtRec6Rec7Rec8",
  "Rec9ReS?hVRecRReS?qtReekReS?sgRefARefBReS]hTReg]RefpRehPReg^RehQReS]fERehRReiKRehSReiLReiMRejR",
  "RekVRekWRelNRemkRemlRemmRemnReo:ReqpResZReTao;Res[ReTamtRepCReubRes]VCc3VCc4VCc5VCc6VCc7VCc8",
  "VCS?fEVCS?Q7U7VCc9VCcRVCekVCfAVCfBVCg]VCfpVChPVCg^VChQVChRVCiKVChSVCiLVCiMVCjRVCkVVCT1mtVCkWVClN",
  "VCmkVCmlVCmmVCmnVCT1sgVCo:VCqpVCsZVCTao;VCs[VCpCVCubVCs]VCs^VCs_VCucVCURSjVCURS5VCURRSSzc3wVhT",
  "wVQ2U7wVQ2UjwVQ2R6wVQ24wVQ2UEwVQ2ShwVQ2R4wVQ26Szc4wVo;Szc5Szc6Szc7Szc8Szc9wVhVwVQ8U7SzcRSzekSzfA",
  "SzfBSzS]hTSzS]Q2U7SzS]Q2UjSzg]SzS]o;SzS]Q3U7SzfpSzhPSzg^SzhQSzhRSziKSzhSfaSjfaiJyxU7yxUjyxR6yx4",
  "yxUEyxShyxR4yx6yxX4yxR1yxRdfaS5faRSfaRqfamtfaS0faS>faS6faSBfaRvfaqtfaS^fasgSzo:SzTaiJSzqpSzTahT",
  "SzsZSzs[SzTamtSzpCSzubSzs]Szs^SzTahVSzs_SzucSzURSjSzURiJSRc3SRc4SRc5SRS?mtSRc6SRc7SRc8SRc9SRcR",
  "SRekSRS?sgSRfASRS]iJSRfBSRg]SRfpSRhPSRS]qrSRg^SRhQSRhRSRS]hVSRiKSRS]qtSRhSSRiLSRiMSRjRSRkVSRkW",
  "SRT1qrSRlNYbc3Ybc4Ybc5Ybc6YbS?qrYbS?Q5U7Ybc7Ybc8YbS?fEYbc9YbcRYbS?qtSUc3SUS?hTSUc4SUc5SUc6SUc7",
  "SUc8SUc9SUcRSvc3Svc4SvS?o;SvS?Q3U7SvS?Q3UjSvS?Q3R6Svc5SvS?mtSvS?Q4U7Svc6SvS?qrSvc7SvS?jTSvc8Svc9",
  "SvcRSvekSvfASvfBSvg]SvfpSvhPSvg^nrjTnrQ6U7nrQ6UjnrQ6R6nrQ64nrQ6UEnrQ6ShnrQ6R4nrQ66SvhQnrfEnrQ7U7",
  "nrQ7UjnrQ7R6nrQ74nrQ7UEnrQ7ShnrQ7R4a>c3a>c4a>c5a>c6a>c7a>c8a>c9a>S?hVa>S?Q8U7a>cRa>eka>fAa>fB",
  "a>g]a>fpa>hPa>g^a>hQa>hRa>iKa>hSa>iLa>iMa>jRa>kVa>kWa>lNa>mka>mla>mma>mna>o:a>qpa>sZTd5Vt_@T]",
  "]QQ__@T]ycb9Qac>iuSNQOQf1cUSNQOQf_6_CQUR61iYQUR65f0PRfU>SM^]EQRSSEIUr5YTSSEIUr",
  "Q=BQ9RXQTSmTpkoVxQNVmZHDT4>c3Quc4Quc5Quc6Quc7Quc8Quc9QucRQuekQufAQuS]iJQufBQug]QufpQuhPQug^QuhQ",
  "QuhRQuiKQuhSQuiLQuiMQujRQukVQukWQulNQumkQuT1fEQumlQummQumni5Sji5S5i5RSi5Rqi5S0i5S>i5S6i5SBi5Rv",
  "i5S^i5sge7Sje7S5e7hTe7RSe7Rqe7S0e7S>e7jTe7S6e7fEe7Q7U7e7SBe7Rve7S^k;Sjk;S5k;RSk;Rqk;S0k;S>k;S6",
  "k;SBk;Rvk;S^h;Sjh;S5h;RSh;Rqh;S0h;S>h;S6h;fEh;Q7U7h;Q7Ujh;SBh;Rvh;S^QuZDSjQuZDS5QuZDRSQuZDRq",
  "QuZDS0QuZDS>QuZDS6QuZDSBQuQ1XRQuZDS^QuZ^SjQuZ^S5QuZ^RSQuZ^RqQuZ^S0QuZ^S>QuZ^S6QuZ^SBQuZ^RvQuZ^S^",
  "w@Sjw@S5w@RSw@Rqw@S0w@S>w@S6w@SBw@hVw@Rvw@qtw@S^WobGWoS?:WogZWoS]:WofnWoT1:WohMWohNWoUR:WoURU7",
  "WoURUjWohOWoVM:WoVMU7WoiHWoiIWoZD:WoZDU7WoZDUjWofoWog[WoeAWoQ2iJWoQ2Q1U7WodhWoelWofqWoemWofr",
  "WoQ2jTWofCWofsWofDWog_yfSjyfS5yfRSyfRqyfS0yfS>yfjTyfS6yfSByfRvyfS^ygSjygS5ygRSygRqygS0ygS>ygjT",
  "ygS6ygSBygRvygS^WoiNWojSWoftWoiOWok]Wo_sWoadWodBWoc:WofuWofvWogaWofwWoenWogbWogcWoaGWocnWodjWok^",
  "WolSWolTWolUWolVWojUWok_WokaWo]bWo]FWomuWokcWolWWomvWopKWoo>WopLWopMWoo?WoXRWoo@WokdWolXWooAWomw",
  "WomxWooBWopNWopOWooCWomyWomzWooDWon0WoquWopPWon1WopQWoqvWoqwWoqxVubGVugZVufnVuT1:VuT1U7VuhMVuhN",
  "VuhOVuiHVuiIVuZD:VufoVug[Vu[I:VueAVudhVuelVufqVuemVufrVuQ2jTVufCVuQ2fEVufsVufDVug_VukXVukYVumo",
  "VulPVukZVumpVulQVumqVuQ3hVVumrVulRVupDVuscVusdVuseVuo<VupEVumsVupFVupGVuo=VuiNVujSVuftVuiOVuk]",
  "Vu_sVuadVudBVuc:VufuVufvVugaVufwVuenVugbVugcVuaGVucnVudjVuk^VulSVulTVulUVulVVujUVuk_VukaVu]b",
  "VuQ7hVVu]FVumuVukcVulWVumvVupKVuo>VupLVupMVuo?VuXRVuo@VukdVulXVuoAVumwVumxVuoBVupNVupOVuoCVumy",
  "VuQ9sgVumzVuoDVun0VuquVupPVuQ:qrVun1VupQVuqvVuqwVuqxVuQ:sgVlbGVlgZVlfnVlhMVlhNVlhOVliHVliIVlfo",
  "Vlg[Vl[I:VleAVldhVlelVlfqVlemVlfrVlfCVlfsVlfDVlg_VlkXVlkYVlmoVllPVlkZVlmpVllQVlmqVlmrVllRVlQ3sg",
  "VlpDVlscVlQ4o;VlQ4Q3U7VlQ4Q3UjVlseVlo<VlpEVlmsVlQ4fEVlQ4Q7U7VlQ4Q7UjVlpFVlpGVlo=VliNVljSVlftVliO",
  "Vlk]Vl_sVladVldBVlc:VlfuVlfvVlgaVlfwVlenVlgbVlgcVlaGVlcnVldjVlk^VlQ6sgVllSVllTVllUVllVVljUVlQ7qr",
  "Vlk_VlkaVl]bVl]FVlQ7qtVlmuVlkcVllWVlQ8hTVlmvVlpKVlo>VlpLVlpMVlo?VlXRVlo@VlkdVllXVlQ9hTVloA",
  "VlQ9k[Qz;Z=QA6VlQ9mtVlmxVloBVlpNVlQ9fEVlpOVloCVlmyVlmzVloDVln0VlQ:k[=UWVlpPVln1VlpQVlqvVlqwVlqx",
  "WNbGWNgZWNfnWNhMWNhNWNhOWNiHWNiIWNfoWNg[WNQ2Q1Rlg4[idum7UNWNQ2Q1SEbidum7UNWNdhWNelWNfqWNemWNfr",
  "WNfCWNfsWNfDWNg_WNkXWNkYWNmoWNlPWNkZWNmpWNlQWNmqWNmrWNlRWNpDWNscWNsdWNseWNo<WNpEWNmsWNpFWNpGWNo=",
  "WNiNWNjSWNftWNiOWNk]WN_sWNadWNdBWNc:WNfuWNfvWNQ6iJWNgaWNfwWNenWNgbWNgcWNaGWNcnWNQ6hVWNdjWNk^WNlS",
  "WNlTWNlUWNlVWNjUWNk_WNkaWN]bWN]FWNmuWNkcWNlWWNmvWNpKWNo>WNpLWNpMWNo?WNXRWNo@WNkdWNlXWNoAWNmwWNmx",
  "WNoBWNpNWNpOWNoCWNmyWNmzWNoDWNn0WNquWNpPWNn1WNpQWNqvd:gZd:fnd:hMd:hNd:hOd:iHd:iId:fod:g[d:eAd:dh",
  "d:eld:fqd:emd:frd:fCd:fsd:fDd:g_d:kXd:kYd:mod:lPd:kZd:mpd:lQd:mqd:mrd:lRd:pD",
  "Q3Q2^nRXKSqS7q[DrHU=SEQ?EL?p[Q=SAUXKRWQcQ=SATuQQRfQ=V6tUdRSFEKo^9tUdRSFeHS=>>RfQ=SARiaQQUZu?T^",
  "3Q]RERfQ=SAS=QF>RfQ=SAe<QRv0DSEQ?xhTuV6DSEQ?Q>SttUdRSFEKo^QGtUdRSFeHSG>SFKEKo^SW?uVSFeH]mRr7",
  "SG>SFQCjbSGiTnYSGQCxTQUXQQjRi=R;[qQjS=VKQ@DSHSsUkktUeQ?V]S=LQRxJRitdw_?QUQFUkQjUaQliQu?QaLZw",
  "S=@QlRfQ=TrSGZoktV?TuS3RQ4UXQynXQNY2TuSqt[4SGQQhHExTT^S=QFR;;ROZw3XCP?Q@TnY2UXQy?ZoEQynY",
  "S=@QlTnRE:RiR5:SGEut:jAR;Q>QkQ?RzvmSGCR:vmSs[Z:TuSEQLQNZoW5S=v0QLQNZoW5TuT^SG>SFLDSHS=AYhTuV?",
  "SW?ZoT:Ua?ZoT:RiQQQ>^_SWUkT6?QDSHSG>QUn[SsT^S=VHRrExTT^Ss?ppSGCQkUkQfe<WgUaQkIY2SgRc63R8QjSsRyUY",
  "RippSGQlYVRWT^RiVxQz4S=@XSRiS:Q@TnZujzPWgS=PVkIVWLUkZoUYTu>QOY2S=ZdQOY23R;fPT9Q0w^SHSG>SL6p7^_",
  "qUQTn[S=T@QfSWxTSHRiY6Tu>^_S=Zuo^SGukS=n[SsiQS=QBR=X?U[Ua7S=SHS=iQSG^nUYS9rHU=KTnZu?T^",
  "SW?uVSFEKo^YcU[RiYl@7UaQkTnT6WgSG^nRfZoQL4SsRWbf3T@Y34SG^nQOY2Ss^_Tu=SL[DV:[ZXCQLQNZoW5",
  "3ZRTnZujzQ?[qQjS=Q]=TjQy?ppS=Q<?TnQ>TrUXQy[xQy?ukTuZcSW?TnRBU[p8QaQ?Q>iQp8?ZoQ@@7SGQ=V6T6?ZoUY",
  "qUVkI^nUST^S=PStQ?T6WgSs=RLvmUXQy[xHSHSsUkT@^JbyQTY2TuQOWgX?UkQjw_QRRJRfQCUOw^UkRfuuXanXT^",
  "RiUSUkY2_4^_jAvm]mibpp1ocSGUU[qUYRi][SGiUR<6SGQQQ]=SHS=[qSFY2TuR;XQ^_jAjzQ?EWHT^SgjbSG[sppSgU[",
  "SsUkukSGSEQ?Q>xTQU:Y@Q>?xv3g@]mXQ^_S=QBSHh@SsAUY]mdPS9rHU=BhHL?Qc[8SFeHS=d8V:WgXaRrL?ppw^SH",
  "S=RznXQNU[]mZdUYUXVcY2SGiUeM=T^UXKV^6S=PRcRfLVh>Q@;ROW=S=Y7RfKZcqUUkQjTuRcRWSHS=Q<Qkuu",
  "SG^n>RsW[KTmU=q34Ss=SYQy?ZoT:UXHXSSsUkZdUYV:?Rf?QkY2S=QFUkQjSG[s4S=QBxTSHqUZc3T@vmSsVhiQSsTrRijb",
  "S=RJV]_4S3RQ4p7tbUY3Q]REaE][RinXT^]mib>QUTn[qQjX?jbS=iTQTiQSGSELxTQN6S=RE:]mibSAUaXSqURcRWSH",
  "SGEutiQS=T6[oeHSWUkT6^Jw^WgSg][S=RzZwS=WPS=t[UYS[]^X?UkZoDSHqUQNY2Vi7p7ukbyQj3Q]Y7ZoT:",
  "S=QB?CQaQ?EdPS=Xp=U[SsT^w^7SG>SL6SG[sukUa7SsZwp7^_]mdPXaV?]mib=T^S=QBdPS=itSs?RgTnZdQOY2S=QBW=",
  "S=VHQjSGSEQ?RBU[V:TrS=Q<XSRiaQ=UYRiVTQ=SAqU6SG>SFeHqUQTn[Ss=SYjbqUjbSsUkQjSG^nSEtURbT^V:?QDpp",
  "p7jbSGo^SGnYRiVxUYSsUlQqVE^?SmQW][S=XQUYS=iQUaAUYTuTvTuSHSWT^S9rHU=QYI[s8XaXSp76SGQ=SAp7o^Uao^",
  "p7UkQfS=QBeQ]mXQSqY2S=[qQjXanXSHw_W=RieQw_XSSsxTVTROW=SWUkQfp8nYp7XSRi][SsT^V:>SFIY2Ss?dPRiXS",
  "SGQ=UkQfS=Rz^JSG_[QN6jAZwRiUkZoUYV:SHp7UkukSsUkCQaI[sY2]mktR<6SW7UXdIw_q;SgUkQ=xTT^S=Rz4",
  "SGER0Q=Wgu??ZoT:S=Q<SASGQQ6SGEiUW=Tu?ZwSGEKo^SGQ=8UaWgS=RB=dlqUTrSsh0T^S=T@QfSWxTSHRiY6V:?QDpp",
  "SsUkQjm]bfSW==U[w_UkZoUYSGQ=UkY2S=RB=T^Ss=V?TudqTuUkRE4S=P][3g@]mXQ^_SGQ=o^w^h0SHV:?dPTuXSV:e0",
  "S=VHQjS=T6WgRinYSsW=w^jbw_o^SWy@jAW=SsvmS=QBWgSW=W=SG>QUQ>T^w^XSu?Wg]mibdPS=ZuZwp7tbUYUXQynYSs7",
  "ViUlTpR6_44SWppS=n[ViV;u?=U[jA=U[h=Ritdw[e<V;p8^JSsq;uFRi_RS=T64TuU[S=6RiS:UYTuvmSGQCUO3SCUY",
  "ViQURf[QR43l7S=Y77SG^n>SSQCSHRiiQSgTrS9rHU=QcQ?Q<XSSWrcqUUkQjUaXSX?dP3SCSATuTrRidPm]UYS=Zue0",
  "S=Q<W=TunY_4Qj]mYhSsDjbXabTRiU[w^xTT^Tu>^_SWW2Sse03SCQjS=Zuo^]mUOSGukw_jb]mppS=Zu][ViUTEeHp7jb",
  "Tu=bfRiTrw^Y34SGEeHUXQy^Jw_Ukukp7>SFvOSGXS3SCY6]mWH=U[S=RJUY_4QUTnT6WgRiT^TuWgS=VHjVT<y6rD",
  "]mib>SLRQQcQ?[qQjV:o^UXQyW=SWnY3T@nYTu8SWS7Y2SsUkY2RinXSHSWUkZoUYX?UkY2Xajbby^_Tu7_4iQUXRQSqY2",
  "]mUkQhZwp8?ZoUYSGEKSHqUU[S=QFiQS=cZQjUXKT^SWWgSs?T^V:XSS=PARsQL>RPQ0V:ZcSGQ=UkUYS=X:UYTuRW=UY",
  "V:tbUYu??ukSg][UXKjbw_V?SsT^SGY2]mZdSq6UXQyQfz3S=@WgTuUkQf3T@Wgw^UkY2S=PAz>iwSHS=QFvm3RySASGo^",
  "Sg?T^S=Y2SGnYUXQynYSgXC6SGvrTu?iQw_WgSsZwTulyS=@XS3T@nXT^w^V?TuSEa4RgSMSg?Rsc?SgdPp7U[p5SWppX>Wl",
  "byUYTuSET7R<Tb_4:_4UYS=VH>RfSaS:SY4RiVxUY3T@^J]mnYV:nXSHV:CQ@QSQDUTIU^lFU@Q0V:vmV:W=SsjbTujb",
  "S=XpQc=RyaLTu][Xa][SgU[X?U[Ua7SG6m^^Jm]4]mnXT^w]RiZ:RiS:UYSgXCQhgBRkf>Tu63SCUYSs8SGSHh@SGiQSW=7",
  "Ss6SGSAsQSgiQUXS:QjS9rHU=Q=Wp:WfSs7mem^4_44S=n[h?ViV;Vio^jA=U[_4:S=Q<Trp7ukh=Ritde<V;Ri6RijbSsq;",
  "SsT^S=nYuFp7nYV:ppRi_RfbS=QBR=TujbS=T64Xa][TuU[Vi7S=6m^^JSsSHw_h0SH]mTyRiZ:TunYSgdPkEUa63SCUYSs8",
  "qUSHViSHh@SG8qUTrSWT^Ss[wRiSqeHX?tbUYQ9RXIR8q[TZ]x6qNRmg<ZiZWf[S9[DRxRQ6^58RZc=N_RRx=>Y2UtRdRmuk",
  "GTvZPqJ]9ysY?6Um=:TJ:aa[SyoT3TQZA^56S_6RehZTd^z^NZ5ZNZkZj[V[g[T[fc;w:w;[GRrQBSEQiCY4UtUjUtUYUtRK",
  "QuY4QuUjQuUYQuRKSzY4SzUjSzUYSzRKTJY4TJUjTJUYTJRK5ThQ05rMYZUYYZRKVCY4VCUjVCUYVCRKQuQDY4QuQDUj",
  "QuQDUYQuQDRKVCThQ0VCrMVCAUYVCcEj:Q?ShT3Zf?i^<^VtbY4RjQDRKVC=UjVC=Y4VC=UYVCi^VCA?Y4VCA?UjVCAvm",
  "VCA^JRmY4RmUjRmUYRmRK]A_1Zl]BYuZYaaZP^6_XZiZ6YtZyZASTTZYvZWZXGR=_G]kwTbAST@TZ_2Yb:mTb@^li:Td^z^N",
  "Z5ZNZkZj[V[g[T[fhUutQBSE]>T4QiQUQ?6fdRi4z3qU4V:^:UX_PU:HV;SsD_PZB8WeQD_PkEVv8UXuuU:8Tf4XjQD7SW8",
  "maX?73T@Tvi=XaUZV]p5X>mZWfmeX_WlW3Na3_ao3_oo3SGrK@Tl_oMIrK@TlbzMTto3S8^=srdRRQQDT4pgZfQCW0Wp==U7",
  "Ss=U2Q0SsAU7SsAV9Ss>osSsuhV9SsosSs?V9Ss=U7SsU2Q0SsshU7SsshV9Ss_AU7Ss_AV9SscSU7SscSV9SsnXU7SsnXV9",
  "SsCU7SsCV9SsjeU7SsjeV9Ss>U7Ss>V9SsQDU7SsQDV9Ss>>U7Ss>>V9NgveC]>7S=ivgdby73RQ7S=Qq7m]7S=Zd7aBRQ7",
  "V:gdWeQq7SGgdTfRQ7S=BRQ7We]X73T7RQ7S=QPgdS=gdb]gTgdTfgdRm]yRsUTUMosVf8WAWhWARQV9Vf?^_1S:Qj1REWg",
  "wRhtQoVGQj_6t[KRs==U7TfUTlIbfX?CQoQPjeU7^?=bfgTT@SFTn@XeV9bCZ:1VKV9^?shU7X?eySSU2Q0jA=Q>QSnXU7",
  "X?CQoQ?rq:W_V<[qQjgT>VnTfUTUMQBm8;R8ShKQ;RZxfi;[W^^_paud@d?d=d>TdqH@QUO3V5gkSWUlV_SxOSGTsXUQQO",
  "3eRc^XUQQOSWQURlTsXUQQO3TEJXUQQOTdwRhtQokvQ0gTPW2WevOXNRcQ<_8f3QcHvOVvQDQ>;QP>X4WeQ?osS=Q@ii",
  "3Xe>U7S=Y7X4RjV9SWQEQy=Q>Rs=U2Q0jA=Q>UMvd=U7_473SCOSGVnTfUT;RQAQoJV1Q?VKETnVKShlF?SqUMQBTRX4",
  "_6QEQDV99UCQDV9aDRo;VHQDU7Y@QhQoVKOqsNb3RpzE=X41T@=Sh1XUOp<?X41QEP_AX4WAW21RQQDX4_MnXO1VGX4",
  "_6QB>U7aDRQU7WARQU71RQQj1]>X4^?>X41[qX4_6QBQDU7WAQDQj1QCQDX4Q3KsbRORzQ=>ScinwpQjjDkDjERjQ]7mg",
  "SsT:h>gRkAlCWlh<p5j@X_lBmbWfuJ_Yl@j?bFWeT:S=ShbFS=RkkFk?_Z4edkBX>_Kf=RaQjjDkDjERjQ]7mgSsT:h>gRkA",
  "lCWlh<p5j@X_lBmbWfuJ_Yl@j?bFWeT:S=ShbFS=RkkFk?_Z4edkBX>_Kf=^z^NZ5ZNZkZj[V[g[T[fh8itTJgrSH5f5RY",
  "yv]Zyk]ZS8Wi]ZmW]Z<v=]ZqD]ZGQR=]Z2XDTwhXRAk:hXRAf]hXRAtrttQws5shou2g9S;;CR4Q7kbIjeSkQi[wZiSUSt[w",
  "S9V[Z6RmR=5_uS1zBmTa@SzQ=:YvZWSUSt@TZkIbZa_YtGR=SUStQ?VI5_uS1Tn:bxqGR=ZAT3TLT3R=T3HTLReJR=RZJR=",
  "ReJHTLRZJHTL]AZlSUStYhW1:W1Ty]B]xR=5_uS1TnTyZyYb:bAS4HR=j>WPRZQFd8^6^OR=j>R=RZQFR=SUStivR=kGR=",
  "^>_yQsivR=_GdbSvR=SvQBR=wTRZd8SUSt@WPYui:SvWP_H:_HWP5uqQFd8_HTL_HQBTLaaQuR4STR=SPQA6<n[RZQFn[u9",
  "Rea8S_]gc;WWRsgveCU_g1]1VqQ?S3ul^d[zS3tUQzYO^>_yQshtS1U^RjQBtUQzYOYQ:z2RjHR43TQ3^8X>mZXa8jEX_3SH",
  "3fJ_Z=RkWlW_:W_TQW_^8W_8W_4aAW_73U^WfXj:XjTQXj^8abXj=63]^f=V:6Rj4RjU[3QNTe3R8TcQsQNTe3T]",
  "3R8TcQsT]_KU;6b]_Z7edS=ShXjCShV:?6_ZSh_ZT]X?VE3iiU;:W_imXj6lY2bPW8Re_CW8QuR0RYSPSyVq@Z1RSReZ1Rq",
  "ReZ1S0ReZ1S>ReZ1S6ReZ1SBReZ1Rv^>_yQs@Z1S5e=RSe=S0e=S>e=S6e=RvQ5sb@RrjzAQZ^DWKmIXCAQZ^D",
  "0]eUCQRSLQcpiUNYZQZ^Dh6T5QT]nQSiZlrQLTeBRXQCRW@]XRObphXQhUZR^I]yRs:Y@RQRkQ2Q9Q1Q=RX@RrjzBR?c3",
  "R@c4R@c5R@c6R@c7R@c8R@c9R@cRR@ekR@fAR@fBR@g]R@fpR@hPR@g^R@hQR@hRR@iKR@hSR@iLR@iMR@jRR@kVR@kWR@lN",
  "R@mkR@mlR@mmR@mnR@o:R@qpR@sZR@s[R@pCR@ubR@s]R@s^R@s_R@ucR@URSjR@URS5R@URRSR@URRqR@URS0R@URS>",
  "R@URS6R@URSBR@URRvR@URS^R@VMSjR@VMS5R@VMRSR@VMRqR@VMS0R@VMS>R@VMS6R@VMSBR@VMRvR@VMS^R@X8SjR@X8S5",
  "R@X8RSR@X8RqR@X8S0R@X8S>R@X8S6R@X8SBR@X8RvR@X8S^R@ZDSjR@ZDS5R@ZDRSR@ZDRqR@ZDS0R@ZDS>R@ZDS6R@ZDSB",
  "R@Q1XRR@ZDS^R@Z^SjR@Z^S5R@Z^RSR@Z^RqR@Z^S0R@Z^S>R@Z^S6R@Z^SBR@Z^RvR@Z^S^R@[ISjR@[IS5R@[IRSR@[IRq",
  "R@[IS0R@[IS>R@[IS6R@[ISBR@[IRvR@[IS^XibGXigZXifnXihMXihNXihOXiiHXiiIXifoXig[XieAXidhXielXifqXiem",
  "XifrXifCXifsXifDXig_R@UpSjR@UpS5R@UpRSR@UpRqR@UpS0R@UpS>R@UpS6R@UpSBR@UpRvR@UpS^R@W;SjR@W;S5",
  "R@W;RSR@W;RqR@W;S0R@W;S>R@W;S6R@W;SBR@W;RvR@W;S^XiiNXijSXiftXiiOXik]Xi_sXiadXidBXic:XifuXifvXiga",
  "XifwXienXigbXigcXiaGXicnXidjXik^XilSXilTXilUXilVXijUXik_XikaXi]bXi]FXimuXikcXilWXimvXipKXio>XipL",
  "XipMXio?XiXRXio@XikdXilXXioAXimwXimxXioBXipNXipOXioCXimyXimzXioDXin0XiquXipPXin1XipQXiqvXiqwXiqx",
  "WRbGWRgZWRfnWRhMWRhNWRhOWRiHWRiIWRfoWRg[WReAWRdhWRelWRfqWRemWRfrWRfCWRfsWRfDWRg_WRkXWRkYWRmoWRlP",
  "WRkZWRmpWRlQWRmqWRmrWRlRWRpDWRscWRsdWRseWRo<WRpEWRmsWRpFWRpGWRo=WRiNWRjSWRftWRiOWRk]WR_sWRadWRdB",
  "WRc:WRfuWRfvWRgaWRfwWRenWRgbWRgcWRaGWRcnWRdjWRk^WRlSWRlTWRlUWRlVWRjUWRk_WRkaWR]bWR]FWRmuWRkcWRlW",
  "WRmvWRpKWRo>WRpLWRpMWRo?WRXRWRo@WRkdWRlXWRoAWRmwWRmxWRoBWRpNWRpOWRoCWRmyWRmzWRoDWRn0WRquWRpPWRn1",
  "WRpQWRqvWRqwWRqxWSbGWSgZWSfnWShMWShNWShOWSiHWSiIWSfoWSg[WSeAWSdhWSelWSfqWSemWSfrWSfCWSfsWSfDWSg_",
  "WSkXWSkYWSmoWSlPWSkZWSmpWSlQWSmqWSmrWSlRWSpDWSscWSsdWSseWSo<WSpEWSmsWSpFWSpGWSo=WSiNWSjSWSftWSiO",
  "WSk]WS_sWSadWSdBWSc:WSfuWSfvWSgaWSfwWSenWSgbWSgcWSaGWScnWSdjWSk^WSlSWSlTWSlUWSlVWSjUWSk_WSkaWS]b",
  "WS]FWSmuWSkcWSlWWSmvWSpKWSo>WSpLWSpMWSo?WSXRWSo@WSkdWSlXWSoAWSmwWSmxWSoBWSpNWSpOWSoCWSmyWSmzWSoD",
  "WSn0WSquWSpPWSn1WSpQWSqvWSqwWSqxWTbGWTgZWTfnWThMWThNWThOWTiHWTiIWTfoWTg[WTeAWTdhWTelWTfqWTemWTfr",
  "WTfCWTfsWTfDWTg_WTkXWTkYWTmoWTlPWTkZWTmpWTlQWTmqWTmrWTlRWTpDWTscWTsdWTseWTo<WTpEWTmsWTpFWTpGWTo=",
  "WTiNWTjSWTftWTiOWTk]WT_sWTadWTdBWTc:WTfuWTfvWTgaWTfwWTenWTgbWTgcWTaGWTcnWTdjWTk^WTlSWTlTWTlUWTlV",
  "WTjUWTk_WTkaWT]bWT]FWTmuWTkcWTlWWTmvWTpKWTo>WTpLWTpMWTo?WTXRWTo@WTkdWTlXWToAWTmwWTmxWToBWTpNWTpO",
  "WToCWTmyWTmzWToDWTn0WTquWTpPWTn1WTpQWTqvWTqwWTqxWUbGWUgZWUfnWUhMWUhNWUhOWUiHWUiIWUfoWUg[WUeAWUdh",
  "WUelWUfqWUemWUfrWUfCWUfsWUfDWUg_WUkXWUkYWUmoWUlPWUkZWUmpWUlQWUmqWUmrWUlRWUpDWUscWUsdWUseWUo<WUpE",
  "WUmsWUpFWUpGWUo=WUiNWUjSWUftWUiOWUk]WU_sWUadWUdBWUc:WUfuWUfvWUgaWUfwWUenWUgbWUgcWUaGWUcnWUdjWUk^",
  "WUlSWUlTWUlUWUlVWUjUWUk_WUkaWU]bWU]FWUmuWUkcWUlWWUmvWUpKWUo>WUpLWUpMWUo?WUXRWUo@WUkdWUlXWUoAWUmw",
  "WUmxWUoBWUpNWUpOWUoCWUmyWUmzWUoDWUn0WUquWUpPWUn1WUpQWUqvWUqwWUqxWVbGWVgZWVfnWVhMWVhNWVhOWViHWViI",
  "WVfoWVg[WVeAWVdhWVelWVfqWVemWVfrWVfCWVfsWVfDWVg_WVkXWVkYWVmoWVlPWVkZWVmpWVlQWVmqWVmrWVlRWVpDWVsc",
  "WVsdWVseWVo<WVpEWVmsWVpFWVpGWVo=WViNWVjSWVftWViOWVk]WV_sWVadWVdBWVc:WVfuWVfvWVgaWVfwWVenWVgbWVgc",
  "WVaGWVcnWVdjWVk^WVlSWVlTWVlUWVlVWVjUWVk_WVkaWV]bWV]FWVmuWVkcWVlWWVmvWVpKWVo>WVpLWVpMWVo?WVXRWVo@",
  "WVkdWVlXWVoAWVmwWVmxWVoBWVpNWVpOWVoCWVmyWVmzWVoDWVn0WVquWVpPWVn1WVpQWVqvWVqwWVqxYYbGYYgZYYfnYYhM",
  "YYhNYYhOYYiHYYiIYYfoYYg[YYeAYYdhYYelYYfqYYemYYfrYYfCYYfsYYfDYYg_YYkXYYkYYYmoYYlPYYkZYYmpYYlQYYmq",
  "YYmrYYlRYYpDYYscYYsdYYseYYo<YYpEYYmsYYpFYYpGYYo=YYiNYYjSYYftYYiOYYk]YY_sYYadYYdBYYc:YYfuYYfvYYga",
  "YYfwYYenYYgbYYgcYYaGYYcnYYdjYYk^YYlSYYlTYYlUYYlVYYjUYYk_YYkaYY]bYY]FQ3Q5Q=sboa_;QihhQ?QTUMZ1RS",
  "e=Rqe=S0e=S>Tde=SBe=RvS=S3ulQs@Z1S5_6Z1RS_6Z1Rq_6Z1S0_6Z1S>Td_6Z1SB_6Z1RvTd5uq4j4n;QW_;Qizr",
  "SOxcQiuqk5j4n;QW_;QiYeS5QuXnQudgQuMh2YZdAYZXnYZdgYZkQVCdAVCXnVCdgVCkQVCqhTJXnTJdgTJkQTJqhTJu_",
  "UtdAUtXnUtdgymS5Rx>XnymRqymS0ymS>ymS6ymSBymRvymS^ymeAymdhymL4Rx^rS5RxAXnRx^rRqRx^rS0Rx^rS>Rx^rS6",
  "Rx^rSBRx^rRvRx[FS5Rx?XnRx[FRqRx[FS0Rx[FS>Rx[FS6Rx[FSBRxzrRxr?RxU=RqRxU=S0RxU=S>RxU=S6RxX<S5",
  "RxX<RSRxX<RqRxX<L6<YeS5<>Xn<YeRq<YeS0<YeS><YeS6<YeSB<YeRvV@dAV@XnV@dgV@kQV@qhV@u_<[FS5<?Xn<[FRq",
  "<[FS0<[FS><[FS6<[FSB<[FRv<zr<r?<U=Rq<U=S0<U=S><X<S5<X<RS<X<Rq<X<S0<X<S><X<S6<X<SB[edA[eXn[edg",
  "[ekQb?dAb?Xnb?dgb?kQb?qhb?u_b?MSBRe[FS5Re?XnRe[FRqRe[FS0Re[FWZRezrRer?ReU=RqReU=S0ReU=S>ReU=S6",
  "ReU=SBReU=RvReU=S^ReX<S5ReX<RSReX<RqReX<S0ReX<S>ReX<S6ReX<YLGYeS5G>XnGYeRqGYeS0GYeS>GYeS6GYeSB",
  "GYeRvGYeS^G^rS5GAXnG^rRqG^rS0G^rS>G^rS6G^rSBG^r]gG[FS5asXnG[FRqGzrGr?GU=RqGU=S0GU=S>GU=S6GU=L8",
  "GX<S5GX<RSGX<RqGX<S0GX<S>^5dA^5Xn^5dg^5kQ^5qh^5u_^5MSB^5MRv^5MS^^5MeA^5MdhST^rS5STAXnST^rRq",
  "ST^rS0ST^rS>ST^rS6ST^rSBST[FS5ST?XnST[FRqa=dAa=Xna=dga=kQa=qha=u_a=MSBj8dAj8Xnj8dgj8kQj8qhj8u_",
  "j8MSBj8MRvRmYeS5i7XnRmYeRqRmYeS0RmYeS>RmYeS6RmYeSBRm^rS5RmAXnRm^rRqRm^rS0Rm^rS>Rm^rS6Rm^rSB",
  "Rm[FS5Rm?XnRm[FRqRm[FS0bVdAbVXnbVMTzRmX<S5RmX<RSRmX<RqRmX<S0RmX<S>RmX<S6SUYeS5SU>XnSUYeRqSUYeS0",
  "SUYeS>SUYeh3qOS5SU?XnqORqqOS0nqS5nqRSnqRqnqS0nqS>nqS6cLdAcLXncLdgcLkQS_^rS5S_AXnS_^rRqS_^rS0",
  "S_^rS>S_^rS6S_^rSBS_[FS5S_?XnS_[FRqS_[FS0S_[FS>S_[FS6^>dA^>Xn^>dg^>kQe6dAe6Xne6dge6kQe6qhe6u_",
  "SRYeS5SR>XnSRYeRqSRYeS0SRYeS>SR^rS5SRAXnSR^rRqSR^rS0SR^rS>SRzrSRr?SRU=RqSRU=S0SRX<S5SRX<RSSRX<Rq",
  "SRX<S0SRX<S>SRX<S6SRX<SBGMI[FU_dAGMI[FU_Xn0xcQi_uS1QV70oa_;Qiuqn[V:4Xa7Q3=RXxcX;QxQV6Xa4Xa8",
  "UpRXoa_;X;QxQV6Xa4Xa8ed>Q:qyQ<RLSCPUyQiR45RKS9Q05QfS8Q05R15RdSPQ05R6SzQ0S4Q0S_Q0S9TnQ0RZavS8TnQ0",
  "Rx;QjS_av5UB<SCUyQ<R4RZR4RxR1<SCUyX4STRdT3R4S_R45QjGQ0TkQ0<Q0RmTnQ0G;QjTk;Qj<;X4Rmf@Gf@Tkf@",
  "1X@kq[AR[Sn<f@9U8RmavGavTkav<avRmTnavGRfavTkRfav<;Q>avTkQSf@edfe<;Qfeeh>eeReavViavSRQ0SRR4SR;Te",
  "<TnQ0h=RxuTavS4uTav<;R1eef[<SCUySfUt:]9QupqZU[SYZ4<^V6VC6qC<SCUy[4S_QkQTko6<SCUyU[T3Zf6SU4ZVTJ7",
  "YbVEVCTnQ0T3Zf7S_QkQTko7VCR4<SCUy7UtCR45SfUt7aau;yySR=6SRSfGS3Q_7X>Wlp5S9QNQ?[iTQRjQj<SCUySH3TQ",
  "3SASz[:Qjqs2[ZUUUKSpbMmikeRmrKbMmikeaqbMmikewJX7mikeRmrKX7mikesI;X7mikeQu@REY^eKBke3^;VKMRM@mike",
  "SWRrUr3Z43QcUG3StUGSWRrayUGeBsI;XgSWUoXg3[LUaZf[L3XwTfSiSMUaUJXa>RY3tilYwJXgSWUoXg3[LUaZf[L3Xw",
  "TfSiSMUaUJXa>RY3ti3SlW3[zCU<cI2QPARb;QeT>Q0aoYimPq^QR_ALiFSXTYQPR[R2[8QaQiU@JXSNU6QR?R^U@JXS",
  "ebSNdlw?SNdlUpQ6r:QFQ?SqQUQ?PRsa3I_tEQXl]QpTnThcZqboiIp@Z0S=ThcZqboiIp@Z0nwugp@Z0",
  "UXQXl]QpTnThLSkV6Z0S=ThLSkV6Z0RiQhQ<Q?QcV6Z0SGQMSkxuZuQcV6Z03xuZuQcV6Z0X?n]rbSkV6Z0",
  "SGQMSkxugEqbS:YaJQkp@Z03xugEqbS:YaJQkp@Z0X?n]CcZqbS:YaJQkp@Z0UXQXl]QpTnThcZqboiIp@W8",
  "S=ThcZqboiIp@W8nwugp@W8UXQXl]QpTnThLSkV6W8S=ThLSkV6W8RiQhQ<Q?QcV6W8SGQMSkxuZuQcV6W83xuZuQcV6W8",
  "X?n]rbSkV6W8SGQMSkxugEqbS:YaJQkp@W83xugEqbS:YaJQkp@W8X?n]CcZqbS:YaJQkp@W8nwugqboiQj",
  "SGQMSkxugEqboiQjRiRwQTVJRfQMSkl1n]Ud3xugEqboiQjVfRwzT8X?n]CcZqboiQjSGQMSkxugEQSRwzT8",
  "UXQXl]Qp;QCn]rb8VvRD83SAm]QCQ?83X]RQTLS[QXQF>TLXjQ<QOYh3RyQ<RP@YhUaQkYhSsRLdxSsRtHYhVvU2hjRicZeH",
  "m]QFvdYhSs[aQFT4V6Z0W3ReQQQ_QARrp[]yRfnQQ?8kMl9hd9@Xdl9hdRm_tQFUZQNQFHYh",
  "3RzRO_hQCQUQ?SaQFUZQNQFHYh_Ziv=UCYh3RyQ<BrHVx4sScgTfRQZuYh1RyJdx_ZKQqUCL8RiQXCUCvuVJQFHYhSWCUCYh",
  "U:ht=VKUC^:Qu@REUCR^VtQkT^Rm]ylJQCQsQkT^Ss[ayHf^TDdZQ_QARrQchaYRY9QAThQ?USdfg2grRDXn3grRDdg",
  "3pYRGSQXUT:Ss[ayH3R8Sh>Q;YH=S7QcL[ay>3X]HRkS9zZXUQfRZQCSEQCRs_?Q?7RxZH[QR4SvQTCh5R1<iuQnWP",
  "3QoCUCcZQjS9QNU2]dYhS==l0VKj1dx<iuQnQB>^mQXCUCvuVJQFHYhNQyZHSY@YhS9QMYhSvQl[qt^",
  "S4TpRoUCbNRlQXQFRk3X]HRkSGnQQ?RkRil9JRkSWXdl9JRkSzQzLVxvud0t^SGnQdxRivtSWXdvtSstNY^QCV^SEd0t^",
  "_MnQdxVfvt_6Xdvtd9vx[qt^yeY^ZHSY@YhRZQNKQnWPRx[5Ts8NRQZuYhtvQ<BrHVx4<ZdROPiv>RfnQdxRivtSWXdvt",
  "3X]RQTLsGRO_hQCQUQ?SaLZH[QR4<ZdROPivSELtNY^QCV^jVvtSstNUCQU=l0VKj1dxSstNY^QCV^SEX]RQTL",
  "U:htXP_?Q?V^SEd0t^VfvtY@=l0VKj1dxWAtNY^]>TL<tMVxy93QovxPSmprVvUS[aVK43QoLoiQjRx[ayHe6ShS8m3",
  "RxilPV[SvROP@WP<RE@TL3QovxPSmprWAoiQjjLQlPSmCSaxeoiQjWAoiI;StvxPSmprVvUS[at^1QovxPSmpr3QoR8EdP",
  "acQCS7vuvxPSmT06jLQlPSmCSaStRyQ<BRQZuRWQjtvJLSdThIRk<REcbSEb6l0VKj1dx<q3QqYVUzt^SGnQVJX]RQTL",
  "Ssoi]>TL3RyJRLm8]ddx3l1]ddxS==l0VKj1dxSstNY^l1]ddxSstNUCQU=l0VKj1dx3X]RQvuDUedxU:htXP_?dx",
  "U:htXP_?VJLoi]>TLU:htXP_?Q?Rgm8]ddxU:htXP_?Q?V^SELtNY^]>TLU:htXP_?Q?Rgm8]dQ?V^SELtNY^]>TL",
  "UX]YQ?V^>^mcxvx[qt^UX]YRgm8]dQ?V^>^mcxvx[qt^UX]YdxUX]YRgm8]ddxsSTSvx[qt^UX]Yrboi]>TL1l1]ddx",
  "bVUCAR13l1]dQ?RkSstNY^htRkSstNY^l1]dQ?RkSstNUCQU=l0VKj1Q?Rk<q3Qq;RwPS3Vm[jdxu@PS3Rgm8]ddx",
  "u@PS3C_hQhJdxUtQBCYhRivtSWXdvtSs[aZ>m8V^jVvtSstNY^QCV^jVvtY@=l0VKj1dx<q3QqWp[aZ>C]>TL1l1]ddx",
  "YU]YQ?V^>^mcxvx[qt^YU]YRgm8]dQ?V^>^mcxvx[qt^YU]YdxYU]YRgm8]ddxnyTSvx[qt^YU]Yrboi]>TL9l1]ddx",
  "1RwPS3YhRx?[uTzUtKQqL8RZ?V]GSFYhS9uhR1Q4r:KPQFeoWXoeq0QMlKnOU:S3=lwTuQN^WW]_ZQE=ASEeMQ=QQAX]SA",
  "1RJT763SD=ASEeMQ=QQAX]SA1RJT76SsZ_R5l7Ri^L[8X]6TuzZXUX]6V:RyLcarL1RJT76SsQhIS3l7",
  "3QlSLSkeMQ=QQAX]SAU;QESkeMQ=QQAX]SASWt0lwSsdHIhY3snQ=WI1RJT76RihvU2TzXNm33TpQWV6lbUXrnV6lbTuVBSA",
  "Tf[5TsSAX?Z_Rk3R5V6lbSsdH^XlbSsdH[8RE;lbRizOUThYTuQOS1HSARiREQCR8QoQlCRzXe:_ZQE=jeStlb3SD=jeStlb",
  "3Ql]dQN^Xlb3QlCQPSF:Ss[jTzm^QCTzTuAS3^XlbSWQRTmTz3upRwS1HR5TzRi=R5TzRihvTm^Xlb1ROREQSREQCR87",
  "_Z^LQTR5^XlbXNSF:u?U_6U:h33TE:SWSLb9:SsQzryhY3QlSLSkVbSktQSgQPQXSElb3UTWiQPQX:u@QkbNV6lb",
  "SsugQCSERwQkbNSATu=[j@SATuRB[u@SASsQQT6QCTzTfTYU2^Xlb3VZR5TzTuzZ>X5^XlbTuzZXUX]Stlb3S1g:TvS=QT:",
  "Tuh[QBTzSsQQT6QC^XQt8u@QkbNV6Qt8Ria9EER5IhYUXnPQPR5IhY3R5QQTnlp3TpQWQQTnlp_ZQE=ASEtQTuh[QBl7",
  "SsWc[uTzTuh[QBVKLWc[uTzSsQzQ]U_LWc[uTzTu=[jdZTnlpSsdH[8RETn=SkzUSsdH^Xb6SkzUV:nO3snQ=CQotQ",
  "3snQ=CAQShvRzQBU_QotQV:DQXR86SsQzQ]U_j2QXR8SAU;QqQ=QASATf[5Ts6SGbNQAV6R5SA3SD=ASEtQTuAS3^XtQ",
  "TuRB[udZTnlp3QkQMSA3QTX]QUQk:UaPER5TzTuzZXUX]SttQTuzZ>X5^XtQU;QZV6VhUS>X5TzSsPJR5Tz",
  "3QTX]QUrbPJR5Tzu@QkbNQQTnlpU;L_hQhD@SARihvTm^XtQRi^LTzTfTYU2^XtQU;a4EQNTzRi=R5^XtQgTRcV6L[jTz",
  "u@QkbNRgRB[u@SATuRB[u@TpPER5Tzu@QkbNTpPER5Tzu@QkbNRgzZ>X5TzTuRB[uiuzZ>X5Tzu@QkbNeyhvTmTz",
  "TuRB[uVKQBhvTmTzUXrneyhvQPVTSA3WBeyhvQPVTSAU;QZV6WBeyhvQPVTSA_Z^LQTR5^XtQXNSF>Q]QBU_QoSL81Vb8",
  "XNSFSEQlSCW=XNkkZdStQlCQPWhSsugQCS3Tz3QUQpQ=QQSAV:Q=UlLr71zURiREQCR8OSs[j^XzU3RJT7StlbSsQzQ]^Xlb",
  "1Qt8Y@lp3Ql]dQN^XtQ3QlvO3RJT763TET76SW=RwQlvOSsQXQQrLu?UT^XQUCQoUCnPpqacPCq^nPSA1TEQQq^nPSA",
  "_6SLQBQOQQq^nPSA1UTR5=CQoUCnPpqUXrnQQTn=SkzU1VhxRQWIQUV6QOR5QZ:9RzXe:U:QWrnSA",
  "1VhxRQWIQUV6QOR5QZSELr7QGzU9RzXe:u@QWrnSA3WBSA3UTARJWBSA3RJWBSARjEVmStRyJStWB61WBCQZ61WB61ROTE:",
  "1RO_VYUrn6YUrnCQZ61RyJfNrn6SGQOcbWYSEb8VKt]1QtStb8VKt]1RzPQZCt]1QtStRzPQZCt]1RwQnCt]1TEQ=QQjeO",
  "1T6@QOVKt]9QLWHVKt]1QLWHVKt]aDgqdKt]3R5USASE@RDCV1S1Hm0WI3snQ=CSt@RDCV1S1Hm0WI",
  "SgQTQNCRBQoT6a9Q=QQjeO_MQQT<QQjeO1RJQ=QQjeOSGQOcbWYSESDPt]aDR8VKSDPt]aDgqdKQoT6@QOVKt]",
  "UXQXQPIbNQQTn;QlSCW=9RJDSCW=3QUQOXeQoZdASQQPQXSEht73UTWiQQSA3UTWiQPQXSA",
  "SgQPQXSE_uAV6RzPQZWc;S1S:71RJSmQQbNSt[wp>QT:Y@>Ct]1RJSmQQbNStxJVfLJRcV6RJSmQQV6xJ1RJSmQQbNxe4",
  "9QF8p>xer7QGzU_MQMUSQQq^]YSERJQ=QQjeOQGgsT<QQjeOSgHSIjVLJRcQQq^]YSE]>RBO",
  "bFSgQPQXjVLJRcQQq^]YSE]>RBOQGQBhv[Z6Y@QUzUTfHR8SEQFPEWIWAZeSAVfDZ_6SgQPQXSEStPQ=bjT6@QOryQX_c",
  "1QUQOgsdKQopUQ=QQlwV:Q=bjTEryQX_c3RJbjTEryQX_c1T6@QOryQX_c1QlJStQ<PSkQpRzLhY",
  "_MQQm7U_Qo@SLb9SEQpRzLhY1VNd3U_Qo=UKQpRzLhY1RwQWd3U_QorbY0QpRzLhYV:Q=bjQlJStQ<PSkQpRzLhY",
  "_MQQm7U_Qo@SLb9SEQpRzLhY1VNd3U_Qo=UKQpRzLhY1RwQWd3U_QorbY0QpRzLhYUXQUbNStRJWxnxQ=Wx",
  "3RJS3@TpStQlXURfbNQA69ROEQM61RJT76sRSL=WIYcIQTRBQoQPSL=WI9suUTpq9RwR5UTpq9T6a9RBU_71QOvdWI",
  "9suUTpq9RwR5UTpq9T6a9RBU_7U:QWd3^XESh3RJQ=VKEECQopquHij3]yX]Sk[w1ht7wcac6WA4jL8Y@6",
  "SsdH[8RETn=SkROQB8SsdH^Xb6SkROQB8SsdH[8RETn=SkLr7SsdH^Xb6SkLr7Ss[j^XLr7UXrnQQTn=SkLr7",
  "sroeq0QMUFJuXVoc[d9Voc[j:Voc[5y0Q=]5Voc[RZ_^QsVoc[<^VVoc[mRQha4SmSoaqQha4SmSo^>a4c>dFRZQMSSEQ?8",
  "RZ>RsQl8bYEQ?8NCV]^>a4>RuQ=QW?QhdASgQW?QhXnSgQW?QhdgS8zxhYS[SySPQhZ_UNN>SLR<:SPQz__SPWJ",
  "5Z1a1TjREQ=UE5mGa1TjREQ=UE5y8a1TjREQ=UEykMa1TjREQ=UES8AQCU=a1TjREQ=UEmWMa1TjREQ=UE",
  "mW_8RwR^Q=Qh@zfyk_8RwR^Q=Qh@zfS4RsRCQ01C@REQCSEQMTZ9utWPNRsRCQ0S8RsRCQ01C@REQCSEQMTZ9utWP",
  "RZQAS7RsRCdATfRCXnW3RmtfRIROS3b<m@5esQSVcT:SgQqQfS8QqQaV?3dkGSmR<Q_V?3dk<VcjrV?3dk5]fUMQQTjVcT:",
  "^?QqQfNQkIV6ry4Njzry4Ut@REQCSEQMTZS[S3WPnkhaUg^XQMTZS[S3WPRmbu;m@SRS:RIm@STx7;m@5]f;m@qDXEm@",
  "mWt_XEm@yvcb_8XPQQQYm@mWy=rEXEm@daeRnW]pXEm@YbegT6rJS9JV1vVrJNSiRIQEegT6rJ<]NvVVruYY:^g",
  "ReWY]ovVphRLuY9K^g1RC@uY9K^g1RM@uY9K^g1TXuY9K^g1W9RM@uYQGK^g_nQQegT6VruYY:^gReWYRrVstXvVphTXuY",
  "9K^gS9QOZrbjvVrJSzCrKvVrJgPT6phK^gGZ?egT6rJNJSYQZegT6VruYY:^gSPQhRYSRS:RIVJ]gSTx7eg]g5]feg]g",
  "qDQPeg]gmWT6Zreg]gyvcb_8XPQQQYVJ]gmWy=rEQPeg]gdaeRnWbheg]gN^uQvSNbfRiDQhUCESLRrSNbfSWQhU_SCdA",
  "SWQhU_SCXnSWQhU_SCdgS8QvQNQsq3U_SCdASWQhU_SCXnSWQhU_SCdgNa3>[xIn;aZXwSggqdASggqXnSggqdgSggqkQ",
  "Sggqqh^]EQRz>^_5biiU^_^]E[iy95biy9^]EQRQSJXF5YTQSJXF^]E[iXZQza85biXZQza8Na3bIRiy7Br7SWQUUe8",
  "Riy7B>Q]QBRBI8SG]2r7SG]2SmX<QBy7Br7RjBBR9QBy7Br73SCvqqBa4EEASmSkV?3dkNa3QpZcVidqSgXUT:RiROSZ",
  "S[QUR6k@@VW][3bs@VW][S_QRR2QFSx8<RoQn8SvQ0S9aR8bVyI85R2]gNQh^H8sGV7^H8S4dyQcvVQShf1VJQShfReTe",
  "ReR<V>5[_juV>ReWjQShf3V?5[vUqTqzruHTWr?uHTWU=RquHTWU=S0uHTWU=S>uHTWU=S6uHTWU=SBuHTWU=RvuHTWU=S^",
  "uHTWU=eAuHTWU=dh^5RLivryI4G=KQUQBryI45biT<QSryI4sGV3TjhfNa3TXRlSf3RLRlSf3VcgsrMRiQ?QlYVThQFS1r7",
  "S9VSQ_Yi3RLUNSTx7YVVSQ_YiS4JtFQTQp;V?3dkSRQ[SQQvQN]XTsORZSqT:3c?i7XeTzT3QQTySPQhYPO<SFAXHyEuY",
  "S[^gRmTxTzS[^g<SFUTTx[8uYS[^gS8SY>uYS[^gT3VWSEVdzzRE;m@3UTVdzzRE;m@SPQhYPQom@<SFAkiQom@RmTx^Xm@",
  "<SFUTTx^Xm@Rep]V1Vdzz@S7RsS7YVR8tJQcVdzzTZQGUTVdzzTZQGVdzzRE;RJhh?RGdA",
  "3UTVdzz@S7RsS7YVR8tJQcVdzzTZQGUTVdzzTZQHRJhh?RGdAQHRJhh?RGXnQHRJhh?RGdgNR8cEsHEQXaRRsRsRCQ0",
  "SgRsRCQ0<]NU7SzRcTytvQ<SmVnNXUYPO<BQT^SVnNJUTRtVnReQXBSdVnS9QXZ3@VnSgQLQEVn<BQT^SV1n>Vn",
  "ReQXBSdV1XdRLQRVnS9SLQSRoD[<Q]ORxRWQCr2RsRCQ03h]]s__Sg]5VJ]g3Z3Qn>jwYiXaS:RIVJ]g3Vpeg]g",
  "3]fegT6SNSF;dkQGV?qQQPegT6SNSF;dkQGV?SgZSSo<QX6RxQXSAQ2kbV3v4QCWbQ_VJRERGUFJdAZ8XnZZRqZZS0ZZS>",
  "ZZS6ZZSBZZRvZZS^ZZeAZZdhZZelZZfqZZemZZfrZZfCZZfsZZfDZZg_ZZkXZZkYZZmoZZlPZZkZZZfvZZgaZZfwZZenZZgb",
  "2fORwS7UqQ_VJRERGUFJdAZ8XnZZS0ZZS>ZZSBZZRvZZdhZZelZZfqZZemZZfsZZfDZZg_ZZlPZZkZZZmpZZlQZZmqZZlR",
  "ZZpDZZsdZZmsZZpFZZpGZZo=ZZiNZZftZZiOZZ_sZZdBZZc:ZZfuZZfvZZgaZZfwZZenZZgbTNa3n@Rf?q0Q_RwR5SF4",
  "SWVTQzQBSF4Tun;QBSF40n@Rf?q0Q_QLUTTzQ:srIV^x<otQ_X^^NZ5ZNZkZj[V[g[T[fp4TJgrSH5f5RYyv]Zyk]ZS8Wi]Z",
  "mW]Z<v=]ZqD]ZGQR=]Zr:gsm7;fLi]UB0VNd3;fLUAQUvQi]UBSTS7Uyi]UBTJQOQPvQUASHWeS7TQTJQOUB0T6a9Wa;R2hF",
  "S8Z?iERmAQhR6SPlcT]Rx=j^Qvc2NQQRwQORWX6QuWrUr5RgxtYOSP^vUCR^tTsGzzQ]QCQUSLQoZ=suSIYOmQRPEzu",
  "SUWcQPQ=SdQ?rDycV7S34S9QUVTQzYO^>RtR4NQQy7Qfj8JxKKRtR1SR>QnU^S8TpTtU^QuQ<QCQT__^>QLS345XdR5@QT__",
  "TJS34TkprNU6QUYO5QURzaHVFRZ?Q]WhmSRr4RZXPR5AQCQUrD5n7XdTp?YOS9jWU^w=E_cNfQQUrDRxfOVxT:S4Z_QNU^",
  "<RwcVUBS9R<QnRkS8Z?Q?rD^>RBQ<zuW6QD;QXRf]d[C5XdD^24S4CR^Y0ROT^5gltSQZO<VKRYsHSmQ?rD5QU[MSFUr",
  "S9SmQZV>S_Qn?TbS8g?SzS3y6SLQoQXQVS3@U^N^2@iSRkbVS3vqTJ[nQnRk5R;QnRkmQhhgpIUrNbnU_?UBS4?R_VSQ?rD",
  "S4Z_QNR^TvRmzaU^QuBBS7?rV5SFbJJgpIUr5SbQfSRSmaL<QRtGycQ?T]sGVhju4RZ]yQUU^mQIIU^u0RQSYYObYRPQT__",
  "<iuDn4STR_Q?rDNR:QLYONfQvqS8>TsvqQuEU4QC^dNR:XUQT__5V6nTRPpdmQi_S1buWhW6R0R<U^S8eyQZU^",
  "x3BtSUIR8QYR;VkswuNuMuOwbwkwjwgwiReQUQoswuNuMuOwbwkwjwgwi0pjS1UMQtPRf_tTl[W^^_pau[GQtPRf_tTlZj",
  "Q9Q9RXIZ_SF>SeQ_n7[3:lBmbk?X_lCkAj?Wlj@h<_Yh=edX>h>l@kBjDgRWfkDjEkFf=mg]a:lBmbk?X_lCkAj?Wlj@h<_Y",
  "h=edX>h>l@kBjDgRWfkDjEkFf=mg2QnQMS1[H:lBmbk?X_lCkAj?Wlj@h<_Yh=edX>h>l@kBjDgRWfkDjEkFf=mg]a:lBmb",
  "k?X_lCkATdWlj@h<_Yh=edX>h>l@kBjDgRWfkDjEkFf=mg2n7QnQMS1[H:i>i?hA_5jGjHgUb_jIhBc0gVi@_qhCkJeefegW",
  "^@iAgXiBjJiCqX:i>i?hA_5jGjHgUb_jIhBc0gVi@_qhCkJeefegW^@iAgXiBjJiCQwiZ[3:Tdmbk?W3kAW3j@h<W3edX>h>",
  "l@TdjDgRWfkDjEkFf=mg]a:lBmbk?TdlCTdj?Wlj@h<_Yh=edTdh>l@kBjDgRWfkDjEkFf=mg2aKdEiZ[3:i>i?hA_5jGjH",
  "gUb_jIhBc0gVi@_qhCkJeefegW^@iAgXiBjJiCqX:i>i?hA_5jGjHgUb_jIhBc0gVi@_qhCkJeefegW^@iAgXiBjJiC",
  "[yQzLju[H:lBTdk?X_lCkAW3j@h<_Yh=edX>h>l@TdjDgRWfkDjEkFf=Td]a:lBmbk?X_lCkAj?Wlj@h<_Yh=edX>h>l@kB",
  "jDgRWfkDjEkFf=mg2xM[H:lBTdk?X_lCkATdWlj@h<_Yh=TdX>eBjDgRWfkDjEkFf=Td]a:lBmbk?X_lCkAj?Wlj@h<_Yh=",
  "edX>h>l@kBjDgRWfkDjEkFf=mg2n7Q=QzLju[H:i>i?hA_5jGjHgUb_jIhBc0gVi@_qhCkJeefegW^@iAgXiBjJiCqX:i>i?",
  "hA_5jGjHgUb_jIhBc0gVi@_qhCkJeefegW^@iAgXiBjJiCQwgi[H:lBmbk?X_lCkAj?Wlj@h<_Yh=edX>h>l@kBjDgRWfkD",
  "jEkFf=mg]a:lBmbk?X_lCkAj?Wlj@h<_Yh=edX>h>l@kBjDgRWfkDjEkFf=mg5n7[3:i>i?hA_5jGjHgUb_jIhBc0gVi@_q",
  "hCkJeefegW^@iAgXiBjJiCqX:i>i?hA_5jGjHgUb_jIhBc0gVi@_qhCkJeefegW^@iAgXiBjJiC5QnQMS1[H:i>i?hA_5jG",
  "jHgUb_jIhBc0gVi@_qhCkJeefegW^@iAgXiBjJiCqX:i>i?hA_5jGjHgUb_jIhBc0gVi@_qhCkJeefegW^@iAgXiBjJiC",
  "5n7QnQMS1[H:9U79Uj9R6949UE9Sh9R4969X49R19Rd9Qj9V>989T:9UY9Te9O9Qf979V99VE9RK9Rk9Y4VfR3:9U79Uj9R6",
  "949UE9Sh9R4969X49R19Rd9Qj9V>989T:9UY9Te9O9Qf979V99VE9RK9Rk9Y4XhQQeyDRtQc[3:lBmbk?X_lCkAj?Wlj@h<",
  "_Yh=edX>h>l@kBjDgRWfkDjEkFf=mg]a:lBmbk?X_lCkAj?Wlj@h<_Yh=edX>h>l@kBjDgRWfkDjEkFf=mg",
  "2QnQMS1UuS<r]6jIW32n7[3hWS[^0UXbcU:n:U;vbVv^0U;TZXN^0uETZqT[w3tKw[uFgT63vYTu6ViZ:XNt5Riij_473q9",
  "Tu[DuDTu_V3ezGW[V[]ahWS[^0UXbcU:n:U;vbVv^0U;TZXN^0uETZqT[w3tKw[uFgT63vYTu6ViZ:SgQRfxijRiij_473q9",
  "Tu[DuDTu_V3ezS9QOQ]Q_RJi_QNzvTJWDnKUmt5gOdRUvS9VxUvS_S:UvS9AUv2QnQMS1[HhWS[^0UXbcU:n:U;vbVv^0",
  "U;TZXN^0uETZqT[w3tKw[uFgT63vYTu6ViZ:XNt5Riij_473q9Tu[DuDTu_V3ezGW[V[]ahWS[^0UXbcU:n:U;vbVv^0U;TZ",
  "XN^0uETZqT[w3tKw[uFgT63vYTu6ViZ:SgQRfxijRiij_473q9Tu[DuDTu_V3ezS9QOQ]Q_RJi_QNzvTJWDnKUmt5gOdRUv",
  "S9VxUvS_S:UvS9AUv2n7QnQMS1[HhWY:^0YUbcacn:]0vbjL^0]0TZsR^01dKTZWAQl[w1tK_M7Y@71QE61vYaD6bCZ:sRt5",
  "Vfij1RE71q91XZ61UC6aD_V1ezS=W[V[qXhWY:^0YUbcacn:]0vbjL^0]0TZsR^01dKTZWAQl[w1tK_M7Y@71QE61vYaD6",
  "bCZ:^?QRfxijVfij1RE71q91XZ61UC6aD_V1ezTuQOQ]Q_RJi_QNzvU;WDnKXNt5qTdRUvTuVxUvViS:UvTuAUv",
  "Qwkgn7[3hWY:^0YUbcacn:]0vbjL^0]0TZsR^01dKTZWAQl[w1tK_M7Y@71QE61vYaD6bCZ:sRt5Vfij1RE71q91XZ61UC6",
  "aD_V1ezS=W[V[qXhWY:^0YUbcacn:]0vbjL^0]0TZsR^01dKTZWAQl[w1tK_M7Y@71QE61vYaD6bCZ:^?QRfxijVfij1RE7",
  "1q91XZ61UC6aD_V1ezTuQOQ]Q_RJi_QNzvU;WDnKXNt5qTdRUvTuVxUvViS:UvTuAUv3QnQMS1[HhW9K^09Ebc9Q<n:9=vb",
  "9QF^09^09QP^09dKTZ9LQl[w9tK9I7p>79QE69vY9nM9QAZ:9QPt5kMij9RE79q99XZ69UC69D_V9ezY@W[V[VfR3hW9K^0",
  "9Ebc9Q<n:9=vb9QF^09^09QP^09dKTZ9LQl[w9tK9I7p>79QE69vY9nM9QAZ:9v?fxijkMij9RE79q99XZ69UC69D_V9ez",
  "1VhQ]Q_RJi_QNzv]0WDnKsRt5WAQldRUvaDVxUvbCS:UvaDAUv2n7[3VNbc]aVNbcW3RZxfi;[W^^_paud@d?d=d>2xM;ZF",
  "i;[W^^_paud@d?d=d>QwkgZFi;[W^^_paud@d?d=d>5n7ZF1TluNuMuOwbwkwjwgwiXhQQeyDRtQcZFi;[W^^_paud@d?d=",
  "d>SXRVQDQAQnR^WLdo^sox^sWQBW9^sWQm8Q_^smO^sy[^se^cwwnoxcwwne^hoTcTDcwwn5aTiqfPfTSMTfRLDXTWeQvXT",
  "aCSfoxaTah4e^cwRfU>SMoxcwRfU>SMe^o_x@1iqfPfTrY1ahXT3RLYdahXTWeQvQsYrV?SGUiuw9cwwn9Yrx@qZRLDXT",
  "9ahXTlF[bXToxo_xCXTe^YrKayYE^s5cwRlayU@RfU>SMSGUinUoxo_nUe^cwRfU>QLfiUod[wnY:ayd[ww1d[wn",
  "1ahVSsWfFq53RLYdahQsq5QHuwWeQvQsYrW9q5SGUiRLsWfFhoo[1d[RsRLDXT9VwQLR69piXT9ahXT",
  "UmVyz>iwUlcwRfU>QLww5o_n8Qsq5QHuwQHx@RmUihoTR_TaTV?5aThoTR_TYrV?SGUin8QsahQsq5lFUzVeq51n8Qshoo[",
  "qZRLDQshoo[RmUid[RsRLDQsaTV?5aTd[RsRLDQsYrV?RmUid[o0QYaTV?QGahXT5aThoRrc]WcQaYrV?9QRYdV?1ziYrV?",
  "SGUid[RsQQ_@QsahXT9Rrc]tTQGQ0RmUihoRrc]WcQaaTV?QHxCXT9aTV?5aThoTR_TYrahXTWQoYQarESQQvoVY:Ur1ahXT",
  "1uwkMT7ZcWQBQqQDSQTKSQQvv9uwe^rESQQvv9n8Qsx@mOrESQQvv9uwWQoYQafKxVYIa=RDwrxVYInmxVfFrEwn",
  "a=RDwrxVfFrEwnnmxVfFx@a=RDwrxVfFx@nmxVfFhoo[WQBRLwrxVYI9v[mOfKxVfFv[WQm8Q_fKxVYIWQoYQafKxVfFahXT",
  "QGq5QGQ?SknU5Q0^]iwUlb7ISQRtQvOa=[CUmVyjNa=RD;q5UmVywn3o[<T7VkaTq5TfYm41q5QGx@UaQnvgWQBQqVE",
  "UmVyjNGSknUUmS7V<o[WQpilJcy][5Q0WQBW9v[5Q05_Dq5UmVyjN5^iTnSknUGSknU5_Dhoo[UmS7V<o[WQ^Ecy?Qcv[5Q0",
  "WQ_wWQm8TbUmVyjNGSknUUmS7V<o[mOv[XNS7V<o[5Q0<QxQ05_Dq5UmVyjN5^iTnSknUGSknUUmVyQSScQcVK?UCR^^s",
  "S[=iwQUYdaXWQn5e^o_aXoxo_aXmOo_aXy[o_aXmOjne^o_Zhx@9uwmOo_Zhuwe^czdk1]7DQLww9^EQCXT1CQPv9VwQLR6",
  "3V?UmS7V<TcTDczV?oxczV?WQm8Q_czV?y[czV?e^cziqfPfTSMS[UrSWWcY^QonUXNS7U7mOcznUe^czaTnUmOczaTnU",
  "y[czaThoaThotTQHQ0e^cz^soxcz^smOcz^sy[cz^se^o_jnoxo_jnmOo_jnS_U^y[o_jne^o_BtYjnoxo_BtYjne^Zhdk",
  "mOZh^TaThopiRfU>SMy[ZhTXYdhocwiDe^ZhV?3iqfPfTSMUaQnvgoxy2WQm8Q_y2y[y2e^Zhr_SM1uw1iqfPfTrY3^s",
  "XNS7U7WQakZhnUe^aTy2oxaTy2WQ^Ecy?QcaTZhczSAWQakaTZhcztT9Tv9TcT]WQBW9aTy2mOaTy2y[aTZhcztT9Q0",
  "e^YrdkmOr_SMe^YrV?oxYrV?e^YriqfPfTSM3W9q5WQpiYdnUe^YrhojnUaQnvgViR^jnoxYry2WQ^Ecy?QcYrZhczSA",
  "WQBRLYdy2mOYry2y[YrZhcztT9Tv9Q0oxYrZhczx@WQBQqQDYdZhczuwQGRBVzWQpiYdZhczn8QstTQGTvQGQ0mOaTahXT",
  "e^aTq5mOaTq5e^aTd[QSScQcho^9TbQGuwQGx@9cwwn9R0QPwn9aTah41lsz[cwwwQGx@1UG1^Ecy][1^ETAhorR",
  "WQBQqQD;aTd[lJTAhorRe^aTd[lJTAhoTcT]1_wWQBW9aTnU1v[mOaThov[1oc1Q0VfQxQ0y[aThotT1Tv1Q0e^nU3Qy[C",
  "Yc[A^9Tb1uwY:Ur3o[S[=iwUlcwRfU>SM1YraX1y23TcTDixSQQvoVm[ixSQQvoV3TcTDVQeOoV^?TKSQQvoV",
  "jBSQZ2iqfPfTrY5Q0a=[C2VK?UCiGRmtfSM^]iwSH2U4QBDiGRmtfSM^]iwSHQwTELv6RmtfSM^]iwSHfYQAmIiGRmtfSM",
  "^]iwSH2QARoiGRmtfSM^]iwSHQwR<VVTjXGO^]iwSHQwcHzpQc[Mv6<QxiGT3WBp[tfSM]aItfSM<U0zv[yXURbXtWBv6",
  "<QxiGT3WBp[tfSM]aItfSM<U0zvQwcHzpQcQ=XURb;uni0knW9TXXtWB4VfQxQ0RiU0zvebSSRTzvty^T_:R^ockMQxQ0",
  "<ScQcVKQSARzQSBtFQXOi0h1QceOQNRsQQy7Qfi0xWeOQNRsQQy7Qfi0h1TjQvQLfiQmWwQxQ01dw1oc1[Mt4Xavcag5esww",
  "Xavcag3unwfvcagNcIRe]7QLfiUoU_b>UrXavcag3unwfvcagSPYTc2qPnuNWMQNc2qPnu3XrYONQyRbc2qPnu5R0QEc2qP",
  "nuSvQWQFTmc2qPnuS9=Yfc2qPnu2a9yDMh1QctZMh1v63aM3un5tZMh_v63aM3unu7tGqBI[0Rcfx_S1aM1^ySM",
  "i0fHcSV^c2qPnukHt4ReQbeFc2qPnukHt4^]iwUlcSV^c21dw1oc1[Mt4SWQbeFc21dw1oc1[Mt4i0h_TjQvQLfiQmWwQxQ0",
  "1dw1oc1[Mt4Xavcag5eswwXavcag3unwfvcagNcIRe]7QLfiUoU_b>UrXavcag3_:R^U_b>UrwfvcagSPQUR6NWMQNc2qPnu",
  "NQyUc5R0QEc2qPnuSvQWQFTmc2qPnuS9=Yfc2qPnu2a9yDMxWtZMh_v63aM3un5tZMh1v63aM3unu7tGi0h1Qc^ETA]fc2",
  "1dw1oc1[Mt43VpMVwQLc21dw1oc1[Mt43y8]fo0c29dwSTd5c2qPnui4Rgc2qPnuqXaMSR>TA^ETAesc29dw9oc1^yQLc2",
  "9dw9ocNR<TAQPQUwwNR<QCQsxCc21dw2tZMh1v65aM5_:4i0h1TjRQtGNR<TAdpQ=QAU6QVc?STd5;dpQ=QAU6QVc?",
  "i4_CdpQ=QAU6QVc?SR>TAdpQ=QAU6QVc?2tZMh1TjcxdpQ=QAU6QVc?d9dpQ=QAU6QVc?5_:R^dpQ=QAU6QVc?",
  "i0h1Qc^ETAdpY^QBQfSTd5;dpY^QBQfi4_CdpY^QBQfSR>TAdpY^QBQf2tZMh1TjcxdpY^QBQfd9dpY^QBQf",
  "5_:R^dpY^QBQfi0h1=kPTAfHDZ_c29dw9oci0xW^ETAdpcqTsQvc29ocSTd5;dpcqTsQvUuaM9eUaMkMR3^ySM9eU^ySM",
  "i4_CdpcqTsQv]niG9[Mv6kMR3aM9eUaMSR>TAdpcqTsQvc29oc2tZMh_TjcxdpcqTsU^d9dpcqTsU^5_:R^dpcqTsU^",
  "i0xW^ETAdpcWc29ocSTd5;dpcWUuaM9eUaM9^yQLUu^ySMQGeU^ySMi4_CdpcW]niG9[Mv6kMR3aM9eUaMSR>TAdpcWc29oc",
  "2tZMh_TjcxdpcWQ0d9dpcWQ05_:R^dpcWQ0i0xW^E_jQxQ0qPnukHt4Tf^uXTSTd5c2i4Rgc2SR>_jQ?US4RiQxQ0nu",
  "2tZMh_v65aM5uni0h_TjRQvLVhsjRdi0h1Qcsoo0]niG1YsiGVfR3aM1hiaMi0xWsoc1RIT5q2QVQt]niGQGYsiGQG[Mv6",
  "QGQBR3aMQGhiaMQGeUaMi0h1r>vcbeQ=QAU6iG9aMi0h_r>vcbeT5q2QVQtiGQGaMi0h1QceOQNc1X5iG1aM",
  "i0xWeOQNo0QoT5q2QVQtiGQGaMbUhvSqV0RRVrc2nuS8S3Qf<JSfReQUa8^>QqQEXTqLSd@QT=CVn3unTJgyCQPTDry4",
  "S4QzQ<?Tb2rJS_g<_nf6h1=ww3VYQf_nf6h_=ww_nf6h1Qc^ERY_nf6xW^ERY_nb>ay_w2VVQcpYaZxtRGegbplsz[VY@U^",
  "9W9Z=dkQIVY@U^2bgxBQbQBfiUoV?S=h^Tb3dkbUQhSqSabgxBQbQoQ?padk3TXTnh^Tb3RLTnh^TbS=paV?2R2=phQ?h^Tb",
  "NQQy7QfSRinLQLR62bgQov[<cHzpXTNfQXT2cBQcKa1LiGSGtfSM2bgQo_bv[SRScQcv[STx7RsfQXTSRScQUR^U_b>Ur",
  "2bgQVQRR12bg[jQyQoV?ebQ0S8JUeQZU^2bgXQQFU=h1=ww3aM3un2bgXQQFU=h_=ww3aM3un2bgXQQFU=h1Qc^EQCXT",
  "2bgXQQFU=xW^EQCXT2bgXQQFU=h1QcVwJU^QgQyeMQoD?i_XTGh^Tb<fTXT2@QUbpY^eMQo_aQ0SGU>SMUaSf2i]O",
  "2VJbpQ?h^TbNQQy7QfSRinLrYSRvGrYowRcRlTtR^tT<fTR^TvSPTtUutZO<fTUutZO2XH>XEQRRQSMu0RQSM",
  "cK?QPRsbnQ?h^Tb3o[TfQQy7Qf<IASMXainLQLR63v[S8xzQ0XainLQLR63v[5^iiE3o[XainLQLR6_ZQCTbwfinLQLR6",
  "1[qQDV>3Z3@n5wfinLQLR61[qQDV>RxR5O3o[XainLQLR6ReQUa83o[RifTXT2gAQoDXdVeVKWHQPT]2gA;[NYERLDT]",
  "5cJYETtT]cK?QPq_oVSRinLX5iG3aM2@VW?TjrxR^WcQaQ=SZT3ARbR^gAOb?Dz>iwUlgAOSWWcUCR^kq[AU_?UB",
  "5kq[AU_?XEQhQqQEXT_nQCkkTm>QRdYY^hZNUqQhQSrxR^tT3kq[AU_?UB2T6dG_nb>Ur5QQUMVW][1U_b>UrUaADO",
  "1U_b>UrSPQnQcgAOi0h1QcQ>aIi0xWQ>aIYH=Uc2RQhc2VbBQnSFUrQwS:SdQ<TDVxD[0UJ3xtRGO",
  "a<fyTjS:SdQ<TDVxDdfRY[ySCQX[;TjS:SdQ<TDVxDdfRYQwS:SdQ<TDVYUIQ=]YkPR5Qf2SIQBX<h1=fiQm@SNQh@aL",
  "NR<QCzsQUR62SIQBX<xWR7R5@U^2cJR0Q<SaVYUIQ=]Y;Vxjr_@bQ2JUTKRs^u^d5ewdA5ewXn5ewdg5ewkQ5ewqh5ewu_",
  "5ewMSB[yQvT]2SCBS;Mh1TjD]G2SCBS;Mh_TjD]G2SCBS;;QyUWSRScUBRZj^UB5phb6UcReQXQB8T3UTKQoVNQnOtrtt",
  "QwxPQga22c_Q2bF[yrNdfg1XnmVdgmVkQmVqhmVu_Td2tZdfg1XnmVdgmVkQmVqhmVu_mVMSBmVMRvmVMS^mVMeAmVMdh",
  "mVMelmVMfqmVMemmVMfrmVMfCY]sbrWQ=cV;fIUnTEJRd3irg5iZShk8gFShRaYMR1k8JFbJQfRaQLQFUnalb^PFbJQfwYfJ",
  "b^QAFbmQLEY;alSWFakR[alVq_Un>RsXURbsXRaSLUnTSWGQHR[^ERdb^@o8Vq[_Ejpwvo8<q3@lhBo8]a[3gFR1niF[uHUG",
  "3RzQFT4fIUndSUaFbJQaR[dS3cVjPb^QAjPViF[uHakR[dSSWSLT4fIUndSU;QFUndS3RzQFT4fIUnalW_o4R[al3[kal",
  "SWSLT4fIUnalTfsXRio8=dizhEgqTpASeq[l]7S[Z>RkX?VS4UXgqTp63QpKm=V:xR7VvVxl94TdVvSFJnH3ThUd3tEThUd",
  "WlU:Q>QNvrSsUS8UaQ>?RJ_eSGn]Ze4S=S3[D3QQ73RycZxhViQn_VRiSCQC8SWQCQASc8XjL7SgQAQn7Wev:W3e<TZSW_V",
  "TfHWYvrf?V:v:V:QN6V:>l7TduJqXn^TdV:8wZ^IUun^S[vFwZRuKvFSgm3Q<kbQ?PAUScVYV?RtaQQcpgZfQiTz_6WPY@TZ",
  "1TZuK1VI1QE:Y@YhlF:1V[Vf:1d8Y@B:Y@@WPWA:1V]Y@TLY@YL1ouY@@QE:_6QE:^?:1YL1xv1TLY@xv1[w1QETLY@[w",
  "acV[Y@T7:1nA_MV[1T7:wcbCYL1:1Trb_^@_q1W2_51U[gXeBe=U7e=Qje=X4e=V9e=Oe=She=R6RiRV;fLm:SA9QPU^",
  "9SCB^d9QTUTTb9XzT6KQz]g1QEQD;QEVERiq<ewQUT]W3U:xf1TluNuMuOwbwkwjwgwic;3dum7Tn[qX4TfZ;QYB:",
  "Q2Q5sbVKY0Qi[wZiYvZW]AZlZ6Yt]BYu^lZYaa]:ZyZXZAZUSPQhZ_Sa6YZ7SPQhZ_SaA7ZV[SSPQhZ_Sa4TJ8SPQhZ_Salp",
  "]9Qu4SPQhZ_SaY2f[[zcaR^@TlUpRXQDiSS:q[Trf[Zi]kZWZlZY_XZAYtZPYv_2mTYu_G]:i:aaa@]A]9eaZXZ6_1Zy[SZU",
  "]BZVT3JR=wTReYL5imQu^85^85U^5SA5SHQuTQ^6VCSHSUAR42bP@V?ReRLQ?6RxC6RxCQR6^z^NZ5ZNZkZj[V[g[T[f",
  "qsYHER;SoQ5=sb=QPARgvEq<HHTLSTb17STb16STb1TrSTHq;STb14STb18TdS4Y3EQcHHW5STH^ZSTHhuSTH[d",
  "TdS4Y3Ep[^ZSGhuTdaB^ZaBhuaB[dS[^ZS[huSs^ZSshuSs[dUX^ZUXhuUX[dSg^ZSghuTu^ZTuhu",
  "diIYTQcLbNUS?AQSq<IS?Q2Wp6SGS?Q3Wp:SGS?Q4Wp7SGX8Q6WpU[SG[IQ6Wp4SGZDQ7WpW2SGURQ9Wp8XsQ8Q:Wp?:",
  "SGS?Q5QV6SGS?Q6QV:SGS?Q7QV7SGUpQ7QVU[XsQ2Q9QV4XsQ2Q5QVW2SGURQ6QV8XsQ:Q5QV?6XsQ5Q4QV=6SGX8Q2QVvr",
  "SGURQ:QVouSGW;Q:QVRYSGS?Q8RfTvSGS?Q9RfTQSGS?Q:RfW=SGVMQ:RfSHSG[IQ5RfSAXsQ6Q5Rf?TQXsQ9Q:Rf?SH",
  "SGS]Q1Rl6SGS]Q2Rl:SGS]Q3Rl7XsQ6Q1RlU[SG[IQ8Rl4XsTa;R08SGW;Q9Rl8SGS]k[6SGS]Q5hDSGS]zN7XsQ7k[U[",
  "XsS?wmXsQ7zNW2XsQ5uf8SGW;uf=6SGW;lOTvSGW;zNTvXsQ:zNTQXsQ8Q9;SHSGS]Q:QS6SGT1Q1QS:SGT1Q2QS7",
  "XsQ7Q3SS4XsQ2Q7QS4SGW;Q7QSW2SGZDQ:QS8XsQ:Q7QSlwSGT1Q6Xt6SGT1x2V[SGT1Q8Xt7SGZ^Q5;QL4SGZDk[SM",
  "SGVMQ5;SC8XsQ6Q4Xt8XsQ2Q1zASMSGS]Q7cO6SGS]ufV]SGS]Q9;_xSGZ^Q:;Rz4XsQ9zHQp8XsQ9Q2cO8SGT1aFl7",
  "SGT1k[TZSGT1Q5UM7SG[IlOT64SGVMQ6UM4XsURUMW2SGX8Q:UM8SGT1Q9;xhSGT1Q:;nHSGTazHQ>7XsQ6ufQ>U[XsW;;_e",
  "XsQ7zHQ>W2SGX8k[Q>8XsQ8Q6zAQ>8SGTaQ2aE6SGTaaFTLSGTaQ4aE7Xs[I;q;SGZ^Q1aE4XsQ5Q2aEW2SGUpQ2aE8",
  "SGTaQ5SQ6SGTaQ6SQ:SGTaQ7SQ7SGZDQ9SQU[SGZDQ6SQ4SGW;Q4SQW2SGZ^Q9SQ8XsQ:Q8SQ?:XsS]SQTQSGTaQ8TnTv",
  "SGTaQ9TnTQSGTaQ:TnW=XsQ2Q8TnSHXsQ7Q:TnSAXsQ8x2[DSGURlOR=XsQ9x2_RSGURzHeQSG[Ix2UdSGURaFt=XsQ5zHZ:",
  "SGZ^k[Qy=6SGUpQ9;TR7SGVMk[HTvSGW;zHHTQSGZ^ufHW=SGVMaFHSHXsQ:k[HSASGURx2aQTQSG[IQ1hHE6SGURQ4hHTy",
  "SGZ^Q3hHE7XsQ2Q6hHEU[XsQ5Q7hHpdXsQ6Q7hHEW2SGUpQ1hHE8XsQ6Q:hHETrSGUpQ8hHib:SGZ^Q7XtVWhHpd",
  "XsX8XtVWhHEW2XsQ9Q4XtVWhHE8XsQ6Q6^A6XsQ2lOTyXsQ7Q9^A7XsQ:Q1^AU[XsQ7Q7^Atb6XsQ7Q8^A?TQXsQ9Q5hHSH",
  "SGVMQ8hHSAXsQ8Q8hH?TQSGX8Q9YV6SG[IQ:zCSGVMQ1YV7SGZ^Q2YVU[SGVMQ2YV4XsT1;Ry8SGX8Q7YV8XsY]Rfze",
  "SGX8Q3RfeHSGUpQ3RfuuSGURQ8RfKU[XsQ9Q9RfKU[SGZDQ3RfssXsQ8Q3RfR08XsQ8Q5RfK8XsQ9Q8Rf[s7",
  "XsQ7Q2XtVWRfssXsVMXtVWRfR08XsQ5Q3XtVWRfK8SGW;Q3WpnMSG[IQ3Wp[wSGZDQ5WpD7SGURQ5WpDU[XsZ^WpD4",
  "XsUpWpRy8XsQ6Q9WpD8SGUpQ5^AzeSGVMQ7^AeHXsQ5Q9^AuuSG[IQ4^AKU[XsZD^AssSGZDQ2^AR08SGZDQ1^AK8",
  "XsQ8lOYLSGUpQ4TnxJSGUpQ:TnV]SGUpQ6Tn_xXsQ:Q2TnRz4XsQ2Q:TnVzSGX8Q8TnQp8SGX8Q5TnQ<8XsQ6Q3TnnH",
  "XsQ:Q3TnQ>7XsQ5Q:TnQ>U[SGW;Q5TnQ>W2XsQ9aFvrXsQ9zNouXsQ6lOQC7XsQ8k[QCU[SGZ^zNRYXsQ5Q5;QCW2",
  "SGZDufQC8XsQ7Q5Tns4SGVMQ9TnPTQXsQ8Q1TnPW=SG[IQ9TnPSHSGX8Q1TnPSAW3RZtCTl[W^^_paud@d?d=d>",
  "Na3Q?]]t_O_6QUO1V5gk1V_SxO_6UlV_SxO1eRV_SxO_MTsXUQQOQ3x3UZZRwpzPUEU:>QM6by^_SGAg<maRiQRQ?PAAPUd",
  "nvS[UddeX_z3WlX>U:R=V:UdXaaIS=W=Ss[?fbWfZBAg<uDddaB>[?mYsPSW7S=R=X?:nsUXssVvTbSsD8f?RazPUEU:>QM6",
  "by^_SGAg<maRiQRQ?PAAPUdnvS[UddeX_z3WlX>U:R=V:UdXaaIS=W=Ss[?fbWfZBAg<uDddaB>[?mYsPSW7S=R=X?:ns",
  "UXssVvTbSsD8f?2QMWi;ewQUT]XL;ewQUT]j7SFQR^D2aj:QggveCU_]ST]j7SFQRSmcCgveCU_]ST]YHhqYHS3ul^Dc;^z",
  "^NZ5ZNZkZj[V[g[T[fc;2tEoX5hnQ4UpRXhaQSA[qQ@Tn]]Tl[W^^_paud@d?d=d>sQuAXNji3t7Sgjhp9X6RixUqQX6S=xg",
  "uGkCXBgSXBmfXBfcXBp:XBqWXBqRXBqVXBatW<kCW<gSW<mfW<fcW<p:W<qWW<qRW<qVW<SWUlW<3ZvvvXNRciy3R2iy",
  "SgWiiyp9iyRioWvvqQiyS=a0vvbyblbyYaTQW6YaUNqHrUgwSsQOQXTQTuQhUUQEQsTluNuMuOwbwkwjwgwiS9QqcqS:JxI",
  "S8nRrmQ01g;gS]fOS_RL=QcYiqHhXTluN_6UlW<5hXQqYaUNQ5r:CYNQkQTQSA[qQ@Tn]]Tl[W^^_paud@d?d=d>sQuAXNji",
  "3t7Sgjhp9X6RixUqQX6S=xguGkCXBgSXBmfXBfcXBp:XBqWXBqRXBqVXBatW<kCW<gSW<mfW<fcW<p:W<qWW<qRW<qVW<",
  "SWUlW<3ZvvvXNRciy3R2iySgWiiyp9iyRioWvvqQiyS=a0vvRmQOQz@TQ5hXQ?]]UPuMuOwbwkwjwgwi_6SH^?Z2XBkKUKXB",
  "1V8W<_6UlW<S8nRTwg;kKQEUBBpHr6RfZ_SF>SeQ_oHSP[4u3bfRZTbTdu:Svsi^5R4[eR4SU[4Rx[?W6QjbVbfgPSAbYSH",
  "QuTvS8[4<YIW1[?^>R4gQSHRe[4Um[4RxnAUmTbRZYISv_PwFTvT;X5eY[4S=rcSg[4aB[?Td5tEK[43XpbfTd3rIW33nA",
  "Td3n_Ss[?byQjjAbfS=rcRi=SHRjTvSg[4RiYIaB[?Tdp8SHSW[4XN[4SsnATdU:YITdUXRQTvsf[eAc]Xpbfc;3nATd3n_",
  "TdbyQjTdS=rcRi=SHRjTvTdRiYIaB[?Tdp8SHW3SsnATdU:YITdUXRQTvTd3S<r]VJSATd1Q@[?Td<q3@lhK[43XpbfTd3rI",
  "W33nA_4R43n_Ss[?TdjAbfS=rcRi=SHRjTvSg[4RiYIaB[?Tdp8SHSW[4XN[4SsnATdU:YIVv_PUXRQTv3S<X5eY[4Td^?[4",
  "Tdi4RgQsoHS[[43XpbfU:Tb3rIXaaIVvsi3nA_4R43n_TdbyQjjAbfS=rcRi=SHRjTvSg[4RiYIaB[?m^R4p8SHSW[4XN[4",
  "SsnAXNTbU:YIVv_PUXRQTvqs5xMRl[43XpbfU:TbTdXaaIVvsi3nA_4R43n_TdbyQjjAbfS=rcRi=SHRjTvSg[4RiYIaB[?",
  "m^R4p8SHSW[4XN[4SsnAXNTbU:YIVv_PUXRQTvQ4c;5^GzdV4FbkREiw[C3bkQ<TbQ2Q1Q=RX[8HQ>ZfQ]RIZq@QVQRR6",
  "<WcbSQRR6Wk@QVQRR6GQXbSQRR6^>QYQ<ipSAsHUlQ<ipSASRUDQ<ipSAda_fjdOk:_fjdOf]_fjdOu2_fjdOnm_fjdO",
  "yu_fjdOwQ_fjdOyj_fjdOwO_fjdOdaT<RluoWIk:T<RluoWIf]T<RluoWIu2T<RluoWInmT<RluoWIyuT<RluoWI",
  "wQT<RluoWIyjT<RluoWIwOT<RluoWIda_fZ;Ok:_fZ;Of]_fZ;Ou2_fZ;Onm_fZ;Oyu_fZ;OwQ_fZ;Oyj_fZ;OwO_fZ;O",
  "S9JWg5QXUCAR6SPuo8mS[aQBQTQPSFWg<DaX<S7IT]QuUeS7V>SRaSQ0TkrbT]SPRtR1ueQ<QkQRSkQ]RI]VKRtR1_0S?qg",
  "_0S?qi_0S?qj_0S?qk_0S?ql_0S?qm_0S?qo_0S]qg_0S]qi_0S]qj_0S]qk_0S]ql_0S]qm_0S]qo_0T1qg_0T1qi_0T1qj",
  "_0T1qk_0T1ql_0T1qm_0T1qo_0Taqg_0Taqi_0Taqj_0Taqk_0Taql_0Taqm_0Taqo_0URqg_0URqi_0URqj_0URqk_0URql",
  "_0URqm_0URqo_0VMqg_0VMqi_0VMqj_0VMqk_0VMql_0VMqm_0VMqo]lqnqg]lqnqi]lqnqj]lqnqk]lqnql]lqnqm]lqnqo",
  "5VtKRtR1_3S?qg_3S?qi_3S?qj_3S?qk_3S?ql_3S?qm_3S?qo_3S]qg_3S]qi_3S]qj_3S]qk_3S]ql_3S]qm_3S]qo",
  "_3T1qg_3T1qi_3T1qj_3T1qk_3T1ql_3T1qm_3T1qo_3Taqg_3Taqi_3Taqj_3Taqk_3Taql_3Taqm_3Taqo_3URqg_3URqi",
  "_3URqj_3URqk_3URql_3URqm_3URqo_3VMqg_3VMqi_3VMqj_3VMqk_3VMql_3VMqm_3VMqo]@qnqg]@qnqi]@qnqj]@qnqk",
  "]@qnql]@qnqm]@qnqor:DQqPrPz[KRtR1QuBQcrfk:rff]rfu2rfnmrfyurfwQrfyjrfwOrfReUlrfTkjW;rfl=Uorf",
  "twUlrfRxR^rfW3QuBQcrhk:rhf]rhu2rhnmrhyurhwQrhyjrhwOrhReUlrhTkjW;rhl=UorhtwUlrhRxR^rh^>QY]6LT]",
  "TdQuBQcrgk:rgf]rgu2rgnmrgyurgwQrgyjrgwOrgReUlrgTkjW;rgl=UorgtwUlrgRxR^rgSPTo;]6LT]TdQuBQcrik:ri",
  "f]riu2rinmriyuriwQriyjriwOriReUlriTkjW;ril=UoritwUlriRxR^riSRUD]6LT]S8_ARdj=dAj=Xnj=dgj=kQnpS>",
  "npS6npSBnpRvnpS^npeAnpdhnpelnpfqnpemnpfrnpfCnpfsnpfDnpg_npkXnpkYsrXDWzCiFN_B2Twr92ixz?tpr9[yTKz?",
  "2fKr9Qwg=z?Qwv=z?2v3r9YHWXr9^MQv^nQaVwQLdEkgZFYH=x[VwQLdEkgZFhxWzC^mhf2pVSl2QptHQORpFf0rKiWQBhf",
  "mMZrUgQFQsjj[6i>i?hA_5jGjHgUb_jIhBc0gVi@_qhCkJeefegW^@iAgXiBjJiC0mFwo=RujjX;Q0hxQnZajjQiUj9Te",
  "QgR6a<Y4TNRgPRC@UvSXrojj[6i>i?hA_5jGjHgUb_jIhBc0gVi@_qhCkJeefegW^@iAgXiBjJiCndV9XhV9QwR6QwOY9DV9",
  "a<UjgMx[zijj[69U79Uj9R6949UE9Sh9R4969X49R19Rd9Qj9V>989T:9UY9Te9O9Qf979V99VE9RK9Rk9Y40iqIBSo",
  "XhQ<SoXhQASohxBUjQgFf0rKiWQBhfndS7QTSQQWvqgMXQQ]_jrojj[69U79Uj9R6949UE9Sh9R4969X49R19Rd9Qj9V>98",
  "9T:9UY9Te9O9Qf979V99VE9RK9Rk9Y4TNUzVeb6XQQ]_jrojjQiT:gMXQQ]_jrorMZPYuQuU7SRUjq=Q<X4SXroBRdQg_ARd",
  "[yQh42AR6YH=VEYHSh2hjQwWI2RLFoXWdOtpR6QwXPQQdEV7SH2V8R1[yZ2R12v3R12fKU1QaTlQwb0U1QaTl2nWV8U1QaUP",
  "Qwg=a:T:2TweRZvSaT:2rWR6ndUjndQ<Te2VxMQhO2fQQBX5OQwHV92?HR6WdCR6XJeGQVQXLUvQ4qyQhEt>Q_haX2lK[6i>",
  "i?hA_5jGjHgUb_jIhBc0gVi@_qhCkJeefegW^@iAgXiBjJiCq=xcS:YhSXrooa_;cZL8Yu=Q;QgQ>VPR;ifxdQ7Q3Q5U7",
  "qSKcnqSQ4BUj2oa_;VzQgQ>VPR;ifxdQ5=Q9UjqSQ:hT_LQ9Q:=RqqSQ:lR_LQ5=>S0z4Q7kX_LQ8UpS5z4Q6qxqSQ3Q5R6",
  "qSQ=Q9UjqSQ2Q9R6z4Q6KSjqSQ3Q2R6_LQ8Q<ft_LQ8Q6Q2UE_LQ9B>S^qSQ9Q=SjqSQ5o=z4Q=emz4Q3n1z4Q4gc_LQ5=bG",
  "_LQ5=g[_LQ:UR:qSRzS6_LQ5=Q3R6qSQ4Q=Rqz4Q4iI_LQ9Q<kcz4Q3en_LQ8Q:lX_LQ8>hVqSQ5foz4=kdz4Q8g[z4Q8fo",
  "_LQ8Q6seqSQ3mvqSQ6KS6_LQ:Q2Q5R6uemFwo=RuBQ>VPR;ifxdQ7Q8Q3Uj9xdQ5=g[9xdQ5=Q9Uj9xdQ6Kmy9xdQ8Q1KS^",
  "9xdQ7Q3en9xdQ8Q7Q<SB9xdQ6Q3Q<R69xdQ7Q6cnQ9RXziAYKVZT4UZQCQTf34QuBcqDQfQ=RXR8R;RzQ<lKR2SQ7Ua7",
  "RiS:7gT6RiaQRrQE6Tfc=Q:srByGJTlWsVmERkTNbnVyQhaUWKQm@Q^SNQOOSXR;caQcU@dfR;olO2Q0",
  "TNQnPWrQlQcc>Q<SYR1SXR;QBYlU@Rl?TsQ<QvOs9QRKSfT[QAScEQcc>Q?UWUfXukPRYs;TpBzUXJTsLPQVbH",
  "e2QOXEESCKQcUknSU=[Zpx:QuIQNS1>OQuRBYe>SYRwQMlwanSCKXOIQNARJQTOgMQDdfnKUfzOR^xFayU_nK",
  "WsRcdY]fdfnKUfzOR^EnER0V1U_nKWsZ?dfnKUfQTR^EnER0V1U_nK0[jQa]fdfnKUfQTR^xFayU_nKTNQhWrayU_SA",
  "gMQDdfWyZbWsRcdY]fdfWyZb0[jQa]fdfWyZbWsZ?dfWyZbSXR;FZbanTtQv]ESXTRq2]Ew1zx^Fb:]vQ<nSg@yTW=",
  "SRQ[UuBSCor^]HQRQYBSCorsSQzTvTNSChpFQzTv<Q?SfT3Qmy6U^ReWMUZ8WsCShUfQRQYKTthbs8QaQpSh0y78",
  "T[R<QAQn8TNQy_hQ?ZwSX=VSJU^e2RPV3QUUMQh4vyBSc?CV1q34UsQMIUMQh4TNRt@Vns8Qaa4DDT][GSddq",
  "TNHQN[aRlfQQBdP0Uz40VxKR5BVnSXR;Q=TtT]T[fQQBdPe2X3T<uVTh4S_S14j4QNU7WsZ2QL[ZRsSCRPQ0XJQlRIjk",
  "WsQMYW;jk0QL[ZSQJUeQZR^QRQVQRR6XJmIR8dP[GQkr70>RoQNEUJanVZWhXJRDSAUfXuIRDSA[GRrQNUJ0QLISAT[QTQT:",
  "UsQR=smSM0a7smSM0V3UlsmSMUs=SZUs=RtR4TNHQNQARWOSXa9QDKQNQARk0[5KR<ET]SXcyQcVjDThd8tlc>QQRlTl",
  "j5SdRwSaod0pxcCVAT]fYc?TN_A_Tpx4TNR<QASaR[px4SXT6SqR^KQbRdSXDTmQy@l7T[QhYIWsQAQUUCSQQARWO",
  "0R8S3^IQSQD=YlRyREWZ^MRr80]dSHSXSY[DWsQARWdEHpyT:WsgpRsUS=^mQDRcdsRzQBRVQ0SXT<QaS1QcV7^_",
  "SXRQQCQsS140S1QcV7^_k7[xHQ?ZwTN_AL^:TNS:BCZSQcWGTNSxRk0SCJgAUOTNSY@aej4QQ=SaRyQfSXTY@BUS4",
  "T[UqSklgj5QaT<SQ_AR6TN_AtG0R2VPR[fPWi40T6RtRLQ^WcQaVOSMSXUSQcaxRIR[BV?UfWXE[jOTNCRbRETs^A[jO",
  "0YjDdrQ<inR1yKQNRftcTNa1vLiUQNRf[xOT[W[SaaxSM0R2VPR[fPWiXODZS40axrXDpvrPQXR1UsRgBQXV>0WYKKSA",
  "UfVZDQsDXdUrT[RcQPVHPRsUS4tkjWMX<b3QZV>TNHca@[8Qoq34WsZ_QNq^ca@[8O0UUQhQDQXLO0UUQhQDQXLQSVhLQLTe",
  "T[QtrcmMa:DpvT]yMQ=VTQ]Rlc?[GQTW[ugUMQh4TNUzVeQ=gqOUsWXRzBQX^dtkQlzSQcQptHOTNQODSNQhSqT]",
  "UfQRQYUCUT4_WV6QCRWQDrPQNSFQQRkw3TRJQSSmY^Rd0U4Q<?S;RsXS0]U@FvlV6nTZ0s7?RTYlT<SQb5O",
  "XJTsQnQOSagBTb0QhhhQ<TDWYKKSAXJ?q0Q_LcBR0R_FQ>jWOSXY7RJCRfS1R8XZTl0grRDQSJScT]TNU6R8JWpVJKO",
  "yKSqQsS3BYTR^oeq0Q_vVO2^eR^oeq0Q_vVOWsTsISQQzROO0UZIR5RBV6rxVTOTNQOCSYRD;TYa8WsQNcaQVQy[C",
  "0R8JQLQARsCS3b:WsgpR^RyRIR[[uR4XJS1R8XZTl_WYPcCSqQN:TNQRSF:0VrXZTl0QOQ]dYdRQd]gw6RQQfTNSiV1@Ur",
  "0rxT^TNJQlZgzfUsQN_yR^QObQ0YPRzSkESq40pYQaVxQfSXSCQaIRtHUJT[TsXU_]anSqQcRJ4T[QbJU^Ws[NDQqPrP_]",
  "XJ?q0Q_VJ]gXJtfRIoeq0Q_vVOSXzORgHTlan?QnSZXJ?q0Q_LcBzf0Rwd5T^0YPTpTvXJ?q0fxBQX4",
  "0QAR;Q?QvhIRc@^mZE[GQUQ?AQodyRTYlR[r8SXLStoJLStR0Y6T[eGVTKQtY;S:UOTNQyRTQNQsoYShSXvUR0R_T]",
  "0QAR;Q?T]SXR<Q=T]SXDQX@QogBTb0YjXZRk0TYbpdyU^0SqQNS1QTSQ_A@r80QA[xKPSQ_A@r8SXQDUTIT]Ufv3JWib:",
  "anTpQ=T]0dyR^U_SIByGSMQgSZTNWYRbYl^nQaR[r8s;TpQLPr80UURDQYS:RbcBQSrxY;r80S1QcS:RbcBQSrxY;D?Uc",
  "0REKRI@QUQ?AQoDUZQ<RIR[r8SXvURssmQsU_R;RETvTNSqDU^yKRtUnVyQhaUT[?TsQ<rP^2Rw[QYOs8SYQc[sTsQ<QvO",
  "TNQnPWrQl4^MQNRDS1QaS:SYQc[sTsQ<U^TN[jq0Q_[sTsQ<U^vyb9Qf2R5JUwWKS;Q_DTVSXRERJWgs8SYQc[sTsQ<U^",
  "2[p^AR_SH0T<Q=S1Qc[sTsQ<U^tkQlzSQcRydYT<Q=S140UkR8a4UyRydYT<Q=S14s8QBDQnTbT[QTR1",
  "0>UeQk>Ru@RDQLQARfRtHUJs8@[C0SCTAS:@[CyMQCQUAglTjSI4w3TRRdvyVh@IUqQSSI4gKSIRk0ThUSV^SEb3QZV>",
  "tkQlzScCS3vg0UkR8a4r2S3vgXxxqQ?keWFYVQUQ?keUfaHQvX0oYSh2YSSQQqSh0UzxS]vUzxS0QqK[C",
  "T[UZhh@V6dyRTYlSxhIUe@T2CUcT[QbY;Sl0SqDTY:0SFCQ>Adfg1SQQnQFdRTERbUMvwQ2XnSWvwRqSWvwS0SWvwS>",
  "SWvwS6s9Qf_WSY40ZIUfXuRl?i_QM8TNSf[GQWT]0QLRgaes9KKZcTNX9^MipSATNR8BCRJSMUfRQSMSX]XWqSXQ?US4",
  "0TYa8s9QjanCX9SXQydlXJQQktRk0R8eyb:TNVxRbSHk7ShUsiis7SZe2QLXZke0WbiuVnSXDRcfx_?RdT[tc0ke",
  "j4QQcBKU[0QqQ<Pz>VTSMWs]c0YjDdr[uR4T[Tt[uR4[GR<vg0RQ@UCR^UCS1R1T[W[Pq^S1R1WsnPQrVVR^KW[Pq^S1R1",
  "T[RcR6UscV?Tv0cZQM:j5]dSM^M]YVSQOPRsSq[CT[RtTEr2Sq[Ck7JXZTv_WSYQcZbTNQbfh[GQWQNfhs9KKVkZbTNc>Zb",
  "^MipQQfhSXRyUeQvQVRQSM0TYbpZbXJQQLcBfhk7EfhUsQWfhWsR8Efh0[5QBQZfhUfTpQ=fhT[i]fhUsSxSEZbUsQWega8",
  "UscSYVinbQTNVxDIR;R10pb0cB4e2SZ0VJa8_W?UB[GVW][XxW9VXiWpe^s2^TVXiWpe^s_lVXiWpe^s]wVXiWpe^s",
  "WsR5RuVOSoUfaHR^VOSo0CVPVOSo0d[QoRLSo2TXSoTNJsmR^VOy40_DVOy4TNxzQ0UfQkQTQoRQQf0bgE[jQBWhgMRby9",
  "0QrZuRcQf0XpQTO^MXdOh6UTQQ8T[bNQR6UfQkQTQoBSCQPWhUsR<a80VO^nShj5[QR4XJiTzD40Z_QLSezD4",
  "0_aMQyt0dES:4UfQkiTQSSxTb2R0CbQWs_A@DinbQT[SYQaQRQSTsS:?xST[SY@QoQRQSTsS:?xSs7RkanRcRdXJTQUfQkTQ",
  "WsSqTsRkXJUySxQVQkUyS:JxKVOO0ixRfUlS:JxKVOOa<QkUlS:JxKVOOj5cyQcT<Q=S1T]UfQkQTFKR;Q?Sai]O",
  "T[WYRzFmJWqUs[]WyKJQQQYRQhcXJQTFibSEtUuV8ReR<KTQ0TpzlRfTQa<QkTQT[W[RkTN^2Rw[QRGQVQXLT]UsinBrD",
  "tkQlzSQcVml3j7ilJTvanS:QBQfT[W[SaRr[C0XbQzQZXdTEQ_zPSH0zPQURf^2b:0UTT:SXLSdRdgL_yS;;RzQBVPm:SA",
  "an?eFITQ^MiST]0gAQBSeR1WK>Ts;RyJ]cgKp[zan40RQSiZwT[QOKTDRySMSX^LQv4UsTsRdh6R5QoYi0SCTAQeQ00aX",
  "anSFSNTlh6R5Os7?RTT^TNCRLrXnCUfVSQ<U^yKSmR^nCT[TWUlnC0V8nDSXVhLJR^nCanQAQbR^nC0]U@FSlT[kuQcnC",
  "0V3UlnC0PRDnInCUsR<DRInC0]U@FWYKKSA0QhQCTpQCR^nD0]UQaRzBQX^d0[tdEHQlXOSETgrRe2T2RwV0]qKSdU7",
  "0RrQNUvT[QkU7SXQLj^QvUvTNTpJR5AnKSXDQqZunGQD=SmUv^MnSg@^M_^UvUsARIVjRy80n>zsS1j^O0RJyIPUv",
  "SXa4=UCRlQtrc0VG[xHQaKQtrcXxQ=TtT]0eRU1ivUvXJQQcBRllZTNR<QAglSaVbUCRr4chQptHQOSoTNQhRJQaBae",
  "T[QTLvVFPQUSotutHQOSoTJ?R8SotvTcSoXJQQcBQ^QVQvOTNVc@FcfRwbiR[PQUSoSX=X9Us[]QQQ_BR:?b:",
  "T[QARWQ=BS34XJQRScR5UjWsJpvSasuR10RgSeQ_suUj^MQCR60UURIQ=TpxI0^iSQARIQ=TpxIUsTm=o82VVR^V?",
  "TN>YWQ<SZ0T6QOMT<Q=Rs>YWQ<SZTNz[^sTNVc@FcfRwQUR6ebUQRwQUR6T[QORsVcQfTNgAzfUsmIDTv0tXDmIDTv",
  "UsQlQNBXUT:SXa9UorqQLTe0q6rqQLTes7rbI_tREKO0QLQ<ET]0vVR0hj2a[RzBQX>jwBU@Q0TNbnR0hj0_DR0hj",
  "0V3UlR0hjT[kuQcR0hj0QXRrQcR0hjs7rbOWKSqQcKUZpdw3R8JRdtlI80vjTwm?ARPQ0UsTmT]WszORfRtHUJ",
  "SXSmRDZeQceoQUVIUsRoJV0UZQ<XdQoSChpQBa4UST]TNQyQNR^ROEQlHTl0reR0UKa9RkgLR0UKa9RkUsjWn40U=[8TsUv",
  "gLoPR^QUyDRg40QUyDRgXOXXspTNbn[8TsR0QEFb5QsoYSh3iqoYSh0^iuVTsR0QEFiqoYSh_oQNQsoYShj5_hlgj5_hQ_vD",
  "gMQDQBxpT]_WxARIXZTlSRrSUV]Rc>Z00YPKQzRGdfVz_WxARIXZTwT<UE0VJdfxARIXZQQWh0eoQU]XFVoOTNSqQN:",
  "2[pSQhf0YPRzCRsSqQN:0T6grR5_cs9RJ80YPRzWbzaxSWsTsIYVR8Q>XPSIQ0UsQXREKQLQSQZlpUsQzPQNz>UZO",
  "0R7R5RuUVpWTNeVUVR[VU^ic1RIpWQH[po0QYTwhlyVR[cf^ic1RIpW0pVXXR[cf^ic1RIpW0TtRlRMy6SLQBUv",
  "0_aRlRMy6SLQBUvSXa4USQNU<iSRDtJUL2Q02a[QQTjCTckPRY5SwTjCTcQVaHWhT[SmQZRke2T2RwV0T7tc",
  "0m6ITmQ?WiPR^E[jOs=VXITmQ?WiPR^E[jO0[7FQRVPDSHTNbn[7FktRkh6=Rk0YX0_DYXT[RDRd2[pRsiSRDtJULs7rbYi",
  "0a1LUvs9RJCRlUe@SAT[jWFVUsp0YTFVUsp0Wyg9S;Rf]yx0SrspSXCWyUVsp[GRgFcfspWKSkTwTcTD]pt_Uv",
  "h6cBBQlUMSHgLDUelKfLjjQeOVfR3QeOS=VyoVZ8O3ZS[iQeOWsRc4e2T2RwV0SIaLUfQAQUaL0[5IT]WKjzR[aKQfs8UC8",
  "UsR5VKRdXJS1UzeJ40mDWrRg4TN[a_hQ_r80RBUKU1^ISNQOflXwtkQlzSTjs5R2Rlg4QRQ?T]0RwScaySFKQLQj",
  "WFZnQcKUe@SAyT]NKUe@SA0eUa7_wfYkuQc_w2QXRrQcerfYkuQcertnQXRrQcerfYkuQcerXKjQa7[O0TXjQa7[O",
  "XKMU1q2Uua7[O0TXMU1q2Uua7[OnbRMWwt;uZj6RMWwt;uZhxBtY]tRO4TNtY]tROXOVpMbeU85Q00kxlhRCWwjaZ;FVQdF",
  "2RMWwjaZ;FVQdFSXs5R2Rf]yQoUCQlb:Xx]MiDch]MiDTNRDSeiD0QkUvk7TAVja4]G0ZdW[:_WQBRT4SXhvTmVm][",
  "XJQUQX>UnQ?WXK^vY^OT[QbdsVjb1ERWlwTN[7SQRtQcTwvWk:vWf]vWu2vWnmvWyuvWwQvWyjvWwOvWReUlvWTJgrUlvW",
  "5f5TAvW5Z1bqX65mGbqX65y8bqX6ykY=jiS8AQCU=bqX6mWY=ji<v=Y=jiqDQrbqX6GQRU=bqX6ReQUY=jiTJgrQUY=ji",
  "5f5QCU=bqX6^[Wwa4UST]SRrSQQTjCTckPRY3SwTjCTcQVaHWhT[Z?vD2[pQSCTcQVaHWh0QAQvR^bJRds7hjTNSxSM",
  "XJeoRD]sBcCYXWFQSLZ?Y;xCKQQWhWKSktUdyRks8SMXJUyQRRlSYQRSLy3?VkgrQnSmU^SXQL?XEQX[0Rk",
  "^M]yQS[o[jQBWhSXDScT]a<=U70]6n]SeR1XJUyQ<iSU^ZMpevjTwm?ARPQ00vjTwm?ARPFDn4]PpevjTwm?ARPQ0",
  "XxVK?UCbPvjTlWFUMWcUCbPvjTl0vjTwQQUM_CT<dfRzQjTNZRQBgmdfxARIXZTlT[jW;VjQUyDRg4SXREIDQsQUyDRg4",
  "0QUyDRgXOoby6U^WsZHR^QUyDRg4UsUlU@QSREIDQsQUyDRg40a1_TxpQNBgAOWFYVmIDTvnbSpDglWqSPQtU1QaDSH",
  "S8tSolYVSHS9>QR@xBk1NQzPSAe3@QVQAQnR^vAySCVPVOSo0iqVOFt6[0QqT@R6oviqVOFt6[0QqT@R62d[QoRLSoebSo",
  "WdS1SISavA2VOfleOTDXbQURzR60iqVOFVhQaiUiwQUYdR[ZheOoVXx^TVXSppe^s0RBRzQDV^QBX0SpnNaqnN2eISpnN",
  "aqnN]vSpVXiWpe^s]wVXiWpe^s0RBRzQDV^QBX0W9nNeb;nN2eIW9nNeb;nN]vW9VXiWpe^s2^TVXiWpe^s2nC",
  "vyQBLiuRsR:?b:h6cBR0z[R[U_SY40VQb6R7QX_TBR:?QZOUsQAaSQ0j5RbYlBQMB?QqSIQ0]vHR_QSgmSQJpvSasuR1",
  "XxHR_QSgmSQJpvSasuR1SXT<WwgmSQJpvSasuR1[GQlcCQORwScpdUfAa7LcBzf0TwKUedZdfSY40ixRlUedZdfSY4",
  "0VQKUedZdfSY4[GVAr80]em:QQQ_BR:?b:0VcQYsuR1SXV7SHUsQAaS;S1SAWs>UKS1SA0RgSeQ_suB;S1SA",
  "k7BS7UqFT6QEQf3R[DS1ju4S9S1ju4WsQzROFDS1ju4b?rY5UyRKWFSQTpxIWsTpxI0^iSQTpxITNz[aTznoV2UURIlg",
  "0UURIBW[QRT^0p]a:VJ]gS9n4S9YI0VJ]gY9n4Y9YI0p]a:QpBS7UrY9n4Y9TmWhk7BS7UrUsn4UsTmWhUfS3T6KeGT^",
  "SXDRcQ_kxQcDYIQg>YWQ<X3DYIvyQBLiuQVQRQ<SfXJTxITh4XJzOUTTh40U@JXSTNeVSrR[RCWwjaSiRIpWTNiSRDQqaZRK",
  "gLV7S3QcQ=U6QSTht2vyV7S3QcQ=U6QSTht2TNR:Xdq10]ektRk0R8JQLQ<MRLTn=QDQBxpT]UsTm=Y<c]T6QEQf",
  "SXVKRbRsVcQf^MTmETDfPWi40gAOSXa4USR^phQRQSTsS:?xS0VQQzPQoSnSPSy5Z05W8e3Wwa4=UCRlvnSM",
  "^[Wwa4=UCRlvnSM0ix[0==UCRlvnrY0SwTja4=UCRlvnrYZMVG[xHQaKvnSM]PVG[xHQaKvnSMZMRrQNRlvnSM",
  "]PRrQNRlvnSM_WCQYKvnSM0oby6R^U_CQYKvnSM5Q0T[QtCQaR0QEFKQtY6QwiZRK2R0QE^miZRK2aKdEiZRK",
  "2R0QEFaKdEiZRKvzY^RbUNT[QtCQaR0QEFn7Y^UcUfQXJQYIXS_WR;QaQ=?xh0VKLPSk@QbT]SXREY7QcVjXUKQNX6",
  "0VBS:?VT@QcVjQ>QlTQ_W[q6aninQ?hbSRQ[QStPpbtmT6QOQoVj]6RkSXtPVVXO^iRfWcUB9oJtPpbQGBTpdEQD=X9",
  "QG@Qm@ZHMBbnpb3Ux83gnOUfQRLhbSXtPVV=^mtPpbgKTjaHTKR^Q<RDS1dKV1Q=_AR60QhJRWQCxNSXtPVVXO]UQrrsQspb",
  "Ri[o[jQBWhSXIRcLhbyOZb0VbDXdRBQQr]ZbyJSqSYxNgK=U<TpdEQD=X9UsQURBTAZbyMQ=SYxNyMQ=CTcxNh6tFhb",
  "gKQcQPQAQbR^SELR5Oh6tFR^VV=^mtPpbTfbnpbgK=Q^SNfTMWcQa@VW][1SxQVQRvLcB49@Qm@ZHMBbnpb^MR5QlboZb",
  "UfQXWYxN0Rr[afhj5?UIZbTN[ahbUs[]=RPhbtmSCCVPVjTEd5R4^MR5Qlbo[sQaQhJRWQCxNWsxzR^VVXO^iRfWcUB",
  "0Rr?gpxNWsi]Q=SdfhUfi]PfhSXQLj^Pfh0Q]a7ZbanpyRthb0SChpZHRs[ahbtm^iRfWcUBj4mIxN",
  "tm^iRfWcXER[BTpdEQD=X9QwV7SqR^QRSQ=SZ0S3dZgpxNWsJmIxNSXQLj^hb0RJyIPfhgK=Q^WcQaU_?UB2a[U5BQ_IS3R1",
  "aninQ?rPc>VV=^mtPpbTNc>VVXOT6QOQoVj]6RkSXc^rPc>VVXO^iRfWcUB1]UQrrsQspbTNc>VV=Q^QV[aQSIASM",
  "h6tFrPc>VV=U<bnpbj5?UIBc>ZbTN[arPc>ZbUfi]PRsc>ZbSXob@ZHSQxzhbQwc^hbXKRBRzMTXfhtmR8tHR^pb",
  "GSkE_AQYESLju4UtVPESLju4Us[]QQRlQbR^Rz=T7RkSX=U=VJMU2TsRfQQktRk0]UMVJMU2TsRfQQktRk",
  "SXa4USMVJMU2TsRfQQktRkj4smSam:V6f2R^TwvAUs[]V6f2R^R0XEVOQoQRRst0KQzYO[yxzU^2a[Ry?UIZbS8TpQ<QsVOO",
  "hyvkjkSXWcvkjkhy^jVXjkw4VXjkySguvkjkQwWcvkjky]^jVXjkQweWVXjkhyvkQCWXjkSXWcvkQCWXjkhy^jVXQCWXjk",
  "w4VXQCWXjkchguvkQCWXjkQwWcvkQCWXjky]^jVXQCWXjkQweWVXQCWXjkhyvk[sR6SXWcvk[sR6hy^jVX[sR6w4VX[sR6",
  "chguvk[sR6QwWcvk[sR6y]^jVX[sR6QweWVX[sR6s8JnIRTTsfS]=1QRuUSXTprKRTTsfS]=1QRuUY1R8RbT^]jR8RbT^",
  "XWR8RbT^]?R8RbT^SXiZdtv<hwQSiZdtv<0dt_Dv<chdt_Dv<2Sqm:R[]=SXQDafSqm:R[]=SXkgXATSgFoP^XxyTfQk^Xxy",
  "wJTSoP^XxychaSR8KRr;]=SXkgaSR8KRr;]=hwQSkgaSR8KRr;]=0mKQSrk5y1rkTNQyRbTDzf0y0Y^RbTDzf0R8RbT^",
  "0_?S1Rgb:SXT6Sq;SCoPCQ]RYs9TsQDV^RsSZ0_a_8a4Qsa9TvSRQ[RlSdQLQaVJa8[GQzTvtlRw8vzQzWqSXREYO[GQzQj",
  "QgSZT[Vn0QQoPR^KVn0YjJQLPKVnT[SYZ[XJTxKVn0SqKSdQT__WsRcQccVUJj5cycCSZ0QQoPR^RycycCSZ0REQE6",
  "0QQoPR^REQE60>UeQkilASM0QQoPR^>UeQkilASM0QhV7S;Q_mJHS1SM^MRDAgyRw?Uc0QOSe?QqRuJQXQARk[GdySIQ0",
  "XJQQQX>Wq_WR;RE[iQzTsQDbHSXSYxqRBV6QzTsQDbH_WR;olRsW[QLQDbH0>QNAQ_a9IQDbHSXVxT:0QAQbR0X9",
  "SXa4VSR0X90]Va9i_V0g?s<a9i_V0g?TN^2Rw[QRGSoj5cycCQOQoQhQCTpQCR^g?0U3hrSQgqp@l0Qfk7gwWKSkYmPSo",
  "SXU_LQvUv0VJQSU_LQvUvUsjzZeQZ;[iQnQoDtIt2k7egQaZeQZUvj5REKQLQVXuUvWKQQMRyREKQLQVXuUvT[S1yGSM",
  "0VJRlS1yGrYT[S1yGJR5Qf_WR;olRlS1yGJR5QfUs=RzQBTETQWKSka4RzQBTEQTOTNHTsQ<QAQURs[bU^XJQUQBUv",
  "UfQkQUQBUv0XdYjdPT[W[PUv0VKAg@UfXuRsfQT^SXHQbT]T[>UBT[Z_@osUszaDQXQaBU6R8RdTNSY@QkOT[TmETmcCQqg<",
  "ZMJ[xEn40U3rXR8TcQsjZoVUsR8VxKQnVSSohxQR_yS;QSTK__s7n]UvanRcJQBUvTNWcBT4R[ZRT:SXQLj^R^^aQkU_Q<^d",
  "SXHpvR^KTmOT[RDJHRgRlRDRdT[XTUstIQcT<QVQXQBVxT:0Wbf3QQx5SXHpvR^YjJQLRkSX@RL:UsTmCV]j4QRQ<?UMp]SM",
  "j4Zwe2grYRkbDQqPxZTcQSJeSUfQy[C0Zh[spr0[5ITDSxQVQAQUaLSXVxRDR60CTscOQAWg_WSIQDbHs9Tsh0Saa9Uc",
  "_WSI;R0X9XKjQc^QnQOSax4[;4owRc[;4RUx4[;4tnx4[;4hyQPZqQrVXx4[;40x4[;QcRzVhju42lcQCU^pIQBSmRDZe4",
  "0QQoPR^Q=RcQccVUJ0RJSLRD;SCoPCQ]RYUszacVQNQSVxT:w3_Ab:_WSIQSB_Ab:TNQTexSXQLR6WsZHnG>[QT]SXLSm=zf",
  "0>UeSkWYRbt[VEUsARbW9Rw?Uc0R8JQLQAQSLSm4pIQMY^IS1QMlKfLRTQR@SLQBzuRjhcSgRc4U;QOUBXaXuQ0",
  "RjRT>R2Q]ORjRTSEQhElw1QhEjeXn1QCQnY21QCQn>r?X?QRg4SZX?QRg4QOXnX?QRg4QOdgRiSdQ=XF",
  "TuVxfQRgH[]QSSdQ=XFS[ToQSSdQ=XFSGQN^EPQSRoJm04VfRoJm0r?VfRoJm0U=RqTfQR]XWGRiQMQfS=Qnl3X?QnWYCRd",
  "X?QnWYTpXn3R8RbwtQfVfQMQrRSUXTpR63VBRPQ03RcV6QX41QXr?TfR8BV1VjRcSAm^ESdV1VjRcSATfRgZgQX4",
  "3RcQQMeJZgQX4RiRoJm0Qc_fpvT]TfR8BV1_fpvT]9eJVdXnTfRgZgpUgsASm4RiQMQa_fRgZgpUgsASm4",
  "RiRoJm0QcT<wtQa_fpvT]3RPVNWYOSW[iQX4u?fFQX43pUgsSaQX4RiRoJm0QcVjpUgsRkRiQMQaVjpUgsRk",
  "RiRoJm0QcT<wtQaVjpUgsRkX?QRg4X3VjpUgsRkm^ESdV1VjpUgsRk9pUgsPXn1Q0m^ESd?SKRSm^ESd?SKRqm^ESd?SKS0",
  "3QMLQM63QMLzPXnSG]2S3Qn4RiQMMSqgsARtQ03QOQBQUrMm^QMxXm^QMEQOXnRjR<ADQWIUrS[R5oeXEQX4SWQO@SZ",
  "SWQO@QOXnjCARbXtUT4S[QXl[S[QXzOXnS[QXzOdg3QMWg_ZWqRiDRcZcSWQRBju4UXWgXal[TuQbxITfQMRKSWUeX6",
  "TfQljzIQXY7WgRicqDQZ;Vj]6RYTfUZ[QUkOu@ScUruHQOa7RwScUr3SCRz_hTlRiCXS3R<UJ3TYbpQ<]^RjgEO",
  "3RyQaS3QyOS[pxR1TuQbzlzspxR1RjIQMXQQjRia9@S7QSk0fi@Wg9_hQz@S7XnRiRoJUT^dTuZ3ADQnSm4U:R5VYRd",
  "U:tFTpRYU:tFTpQCr?TuR<WiRkTuUeQhVVYOTfQA[QnESMTfQA[QnEVsRSTfQA[QnEVsRqTfQA[QnEVsS0TfQA[QnEVsS>",
  "RjQLIKrMS[>XET<RfQORk9QCQlTKOm^SIQf3S:XFS=UWU:V^MQ?UWSGQQUB3_bQ<QzQj1C[<4r:eIm6TMWrt0QoSr[O",
  "2RLjQTMWrt0QoSr[O2mATMWrt0QoSr[O2TXjQTMWrt0QoSr[OQwob@ZHUu_w0hiaKQ<uZ0aKQ<uZhwuZ0mKuZ",
  "0XbQhIxOYpuZXxbecrolR^YSUu_w0tX@WBT^WFUMQRP_OQwob@ZH]n_O0ob@wx0Yswx0aKQ<wxhwwx0mKwx0XbQhIxOYpwx",
  "yT]NcrolR^eIRPP]n_O1Ys_Oq=@WBT^WFUMQRSaer2RPPUuer2YsUuerXx[tQYcrolR^eIRPPUuer1hier0[tQY@WBT^",
  "WFUMQRSavS42RPPUuvS42YsUuvS4XxvScCQQolR^YSUuvS4w1[in@iDvzn@iD0hin@iD0n7n@iD0gyn7n@iD2XAn@iD",
  "0XbQhIxOXAn@iDw1QRwtQ]l30obWwQMQ]l30YswtQ]l30aKdEQMQ]l3hwwtQ]l30mKwtQ]l30XbQhIxOYpwtQ]l3vzUU_jf1",
  "0YsSQA_jf10n7UU_jf1hwSQA_jf10mKSQA_jf10XbQhIxOYpSQA_jf10obWwg=QSf10YsQSg=QSf10aKdEg=QSf1",
  "hwQSg=QSf10mKQSg=QSf10XbQhIxOYpQSg=QSf1vz]pWwf10hi]pWwf10n7]pWwf1ch]pWwf10gyXA]pWwf1vzVQm;",
  "0hiVQm;0VQm;0hiVQboDQRQDt<]EvzoZm;0YsSQZ2m;WsZ2m;0YsSQZ2boDQRQDt<]E0y0]qoZboDQRQDt<]EvzfKm;",
  "hwwrm;0YsQSAUKm;hwQSAUKm;0RBUKboDQRQDt<]E0hiv3m;chv3m;0gyXAv3m;chv3boDQRQDt<]Evzf5TAm;chf5TAm;",
  "TuQRQDt<]Ehx[OgMx[zi[Od^Q<_OgMx[VwQLQ<_OQ9RXeUQXRrQc_w2PRDTtiE2V3QUiEY9R<DRI_wfYxziE2QhQ<_O",
  "fYkuoT2QXRroT2PRDTt_O2V3QU_OY9R<DQL_OfYxz_OueXAn<Q2SOVUz_jx]jz_jxXWz_jx]?z_jxyNhijx]jW?hijx",
  "w2hijx]?W?hijxyNeUjx]jW?eUjxw2eUjx]?W?eUjxueVUz_g8]jz_g8XWz_g8]?z_g8yNg8]jW?g8w2g8]?W?g8chVUW?g8",
  "2cfW?g8toW?g8yVW?g82VUW?eUg82cfW?eUg8toW?eUg8yVW?eUg8Y1d4Q?RRjO]jd4Q?RRjOXWd4Q?RRjO]?d4Q?RRjO",
  "Y1d4YsjO]jd4YsjOXWd4YsjO]?d4YsjOY1d4aKQ<jO]jd4aKQ<jOXWd4aKQ<jO]?d4aKQ<jOY1d4YpjO]jd4YpjOXWd4YpjO",
  "]?d4YpjOY1d4mKjO]jd4mKjOXWd4mKjO]?d4mKjOY1eOQNMRydYSl]jeOQNMRydYSlXWeOQNMRydYSl]?eOQNMRydYSl",
  "e3s1ZnoUXKQDeFZnoU^[s1ZnoU0TXQDeFZnoUY1BR:XdVeSl]jBR:XdVeSlXWBR:XdVeSl]?BR:XdVeSlY1YpRsR:XdVeSl",
  "]jYpRsR:XdVeSlXWYpRsR:XdVeSl]?YpRsR:XdVeSlY1XASl]jXASlXWXASl]?XASlqyRCs1QSzXXKQDeFQSzX^[s1QSzX",
  "0TXQDeFQSzXhybSSLWwzX2ZqWwzXSXWcXEZqWwzXa<SLWwzXZMRMWwzXs:TXQSzXhUQDARzMWvVU]qoN2cf]qoNto]qoN",
  "yV]qoNy]d]]qoNTJS3Qa]qoNQweW]qoNWkQa]qoN2VUoN2cfoNtooNyVoNy]d]oNTJS3QaoNQweWoNWkQaoN2VUYsfg",
  "2cfYsfgtoYsfgyVYsfgy]d]YsfgTJS3QaYsfgQweWYsfgWkQaYsfg2VUYpfg2cfYpfgtoYpfgyVYpfgy]d]Ypfg",
  "TJS3QaYpfgQweWYpfgWkQaYpfg2VUmKfg2cfmKfgtomKfgyVmKfgy]d]mKfgTJS3QamKfgQweWmKfgWkQamKfgqyVUjx]jjx",
  "XWjx]?jxe3s1X0RRQ^[ijxXKQDeFX0RRQ^[ijx^[s1X0RRQ^[ijx0TXQDeFX0RRQ^[ijxyNkxlhZ4]jW?kxlhZ4w2kxlhZ4",
  "]?W?kxlhZ4chRRhJ@QVScXETl1V8bqgk1Twg;9bqR6Y1cU_8RQRzuzXWcUZmRzuzY1iuZmRzuzXWiuZmRzuzY1^;t[Rzuz",
  "XWdXt[RzuzY1dXt[RzuzXW^;t[RzuzY1iWMVY^IZmQ<kyehXWiWMVY^IZmQ<kyehY1Q=nPQrVY^IZmQ<kyeh",
  "XWQ=nPQrVY^IZmQ<kyehXxRRhJ@QVScXETl1V8bqgkpH]RVXcfQPQUTnQXbSt45UVQPQUlJQCnGWcbSt4",
  "Q5Q=RXziBtYR2ROXOoZdF1V8dFz0ZMVpo0FoZdF1VQdF1V8dF1Xwz00TXQDz[VVR^UGgP@lhUG5pif@gP@lhpif@",
  "UsQRlheOoVXxnCT[xz;nCUsQRUCR^vA0QFADVdMU_?QPfhXJQQcBMU_?QPfhtmQPzx^Fb:WKQNQYZbw1QRLhbtmVruaSxn4",
  "0R8R0QaZbj4[xEhbSXRV;VjnTgnOTNQtRfQcvA0iqiW;VjvA0^;VVR^[uQfs=VVR^[uQf0VOt[L40VOFaTR[YreOv9xCXT",
  "0StSCTAPWc;VOSogK=U<QbR0SaRQQfTNJT9fhWK>SY=>RuZb0R8tHR^V6nTaOZ=Qq[xHU^^MR8Tphb0ZHhbgKQcb7Qj",
  "SXb6zphbtmTwbgxBQb;f2XTaninQ?R^VV=Q^SNX3pbateUR[QQTjR3cB4tmeOQNRsU@rPbngAO",
  "SXQNdKV1VV=Q^UFJQoBU@R^U_?UBSXtPVV=^mtPbgQoR[peBU@R^U_?UBtm^iRfWcXEQCQkQnU^SXS:RbQsVVXOVbDSCxKrJ",
  "UsQhEQ?eoQVQkTQT[QhS3Qrv>VSU^UsQMIQoRLUMVm=QPT]SXRDUU4Usin__XJUyQRUM?QEVS8_WQPQNq^ca@[8OSXHrqSh",
  "Us[]V6QprPQOR7Qy[Ctk[xEJU^WsglT]_WzlQ?YVn;QPJSAUfXd@QLQAOUfXu;Ryhd0VOr80fGR^IS3R1UfTsRuQ=TtT]",
  "^MQAS7FQ<QAS7QBrxOTNa1vLE[jQBWh[GVyQLQA^A[jOSXRySAanCQ_Q?T^0WYQ=SMWsRcdYDtIQcgBTb",
  "SXXPQQQYDtIQcgBTb0bqQYDtIQcgBTbs7QER^ESCRYXJQOQ]Q_QO@QoR;ARATNR<JQvSNTl0tI[bTjrxY;r8SXT<@r8",
  "WsZHR^suUjTNR8tFke0aHWbUZ8TN[QVyT]T[RtSAj5REWZTNQOR8QfT[Tm?VT@QcXHYI0V3QUwtYISXHQtQbYVUyT<SQ_AR6",
  "SXY7i_QsQ=ZSXHYIe2EShan[jQoT<RfTsR1Us=QTUeOh6AQDWirqZcUsiSUSWh^MS7T7U^0R2@R;cC_AL^:0bR=WcQalg",
  "TNHRgQBrxOT[QbJ^mRySATNRLQ^fiVETNWbQQZwT[R8BBTp6Us^:UsQh@QF[CTNjzVjROX9SXSxQDS1R4TNzTQsQ=_AR6",
  "0QL[ZSaV3SHXJRr8_WQQRsUS4T[Tm[CSXtPVV=^mtPbgQoR[VQnD0[qQDQ?hbSXtPVVXOT6SZtmVha:ieVha:RQQf",
  "5R;b0bgQoSxQVaHPRfWcUB0U@SJRuZbWsQhzphbWKQRnH^MR5ibR5xNgKQcS:JxKiW;T6QOO2[pYVQLUZR^pbSXQO6",
  "0QqKRsCX9anVmErY0VxvLR0Y6WsQqWwS:4TNQzU70XUQQfhw3QXD_c[GR<ktRkyJS1WMfhe2TmSM^M?UcT[X9SXHTV0QbRd",
  "WsCQEfhT[UeQZQ=JRkvyT]anQXvI0JThae0QAHQRWbQNWISXHpyT:SXRTAR6anAQzi_QcZb0QF=KQzfh0QyQ<WHS:Sh",
  "SXuhR8RyR60QrQhRKTNWYRbT^h6RrQOW20eTTzUs=RtCUc0VxDDRg[lIVnmMR8Qf0dyBrc0SCKQBb:_WQBRTQn8XJS1R8ss",
  "T[UZET]SXQDTQXJSqU_UBk7Q<8SXSCUB0C@b:0QXRrUeTQSXLR;R1WsZRQv80Cn]b:yK>RPQ0T[R5SASX=Tban?ScQcQpSh",
  "UsR8KrPQT40SFCQ>ARsR>aya7RQhcNR<vQRQhcSPQMR6SRUDRQhcT[Tl0odWsCY60VKCUBSXk0HQN8SXk0QCTsQqTv",
  "SX[ZVTSaQCt4e2QOF]UR^shR6_WSIThVSQVt<BRQhcXJQT?QMQVt<BRQhctlUCQTdrQOQj2odTNQySLr>VSpdTNRLBUS4",
  "SXQMWwRQLT]yKRPqzlganQOcyQ00QQ_cWsQM[Z[CUf[ZQ=SMT[Ueb:XJx?Q<inR10S1cCRo4T[vnRIT6:0YjJRd",
  "SX@SxR^m:SAh6b6RDR^m:SAvy[Z;m:SAtmgsWbSM0UZSdQfTNHTsR60TpQ<TDUZSdQfyKR_Qsm:SAUs[]WyVrWrQOUE",
  "2QRSN=SqSaR8dPQgJUTKU^2[iSC@V1xtYOXJn4Wsx4Rks;SqDRc4XJQNm:SA0RDUEanQU^:0QFQkK^:T[QzTv0QXRrQcnC",
  "T[Tsc]BXSw3QOUEanSCQCWhTNCX9SXCRbO0a7EWiQaQUyDRg40UUZ3VAT]tkQWQBcSYV?yIRI]s__[G_=@Ro4Us=RwStoR",
  "^MQ?SETSQyXURKTNR:S3O0W[RtVnWsRcQcXbQv?gpT]0VKTplgT[pxR1XJTmQ?T^0J[xEn40SCaZaxSMSXRyTp;VjSwYI",
  "T[Qt;VjPQOV>SX[ZVTSaDTv0^IQ<Pz>SZT[R8dPT[eGT^0R8JdsVjxpT]T[X3T<QSCXSSXDVW40m?ADQfWKl]X3Sq?g@",
  "yOi[tGtwSHe6hjSPgpUOl=UWS9cSV>yUvMZJR2y=fK]3yLvMZJR2y=fK]3yOi[vMZJR2y=fK]3yUvLgxtwUlgxe6CVPgx",
  "SPgp_Cgxl=UogxS9cSQ?;gxyLvLgxtwUlgxe6CVPgxSPgp_Cgxl=UogxS9cSQ?;gxyOi[vLgxtwUlgxe6CVPgxSPgp_Cgx",
  "l=UogxS9cSQ?;gxyUvMZJTweRbqy=fK]3yLvMZJTweRbqy=fK]3yOi[vMZJTweRbqy=fK]3yUgFtG3cHSH3R8hjS[gpUO",
  "SsQ?UWTucSV>yLgFtG3cHSH3R8hjS[gpUOSsQ?UWTucSV>yOi[gFtG3cHSH3R8hjS[gpUOSsQ?UWTucSV>yUvMiseRnWfK]3",
  "yLvMiseRnWfK]3yOi[vMiseRnWfK]3yUvLmBtwUlmBe6CVPmBSPgp_CmBl=UomBS9cSQ?;mByLvLmBtwUlmBe6CVPmB",
  "SPgp_CmBl=UomBS9cSQ?;mByOi[vLmBtwUlmBe6CVPmBSPgp_CmBl=UomBS9cSQ?;mByUvMZJVQeRv@T6Ul]3",
  "yLvMZJVQeRv@T6Ul]3yOi[vMZJVQeRv@T6Ul]3yU^1HpvT]yL^1HpvT]yOi[^1HpvT]yU^1HRgZggxyL^1HRgZggx",
  "yOi[^1HRgZggxyUfPQmQrcHSHl=QmQrR8hjl=QmQrKgpUOyLfPQmQrcHSHl=QmQrR8hjl=QmQrKgpUO",
  "r:XeRrQ@Sta7EQUQNTbRmSxQOTvTJQLXZke[Ua8NVcAY6NzTSA<TpRJT]2YS^AQUQNTbRmSxQOTvTJQLXZke[Ua8NVcAY6",
  "NzTSA<TpRJT]pHKQMQdzDWh0Z1]sBTjQDUTQB?ZcT[QARWQ=OSXTYbQw1VWQSSxTbpIQ<R8jrT<RlSCCR60UZQyRBTAKSxn4",
  "SXT6VGWrRg40QEMQzRkTNQAUeaLpIPX<h3h6Qn4mMRtHUe4s7QkQN^8XJTmS1QVUwUsQRhYWKSLUIQptHOx3QAQvQs[;T^",
  "TNRQhcs9QFgw0zO40RJvuZRT:T[QTQ>8XJTsQnQOSa_?ROQf0^aQXRJSA0bmQ<QAWgTNCTvTNQODYmPQSaI",
  "SXV7QDQ<WYRPQ00QqQ<xI0UGXJRcQAgwUfQRQ<Sf0T7[oT]SX=QDR^b6VSSMh6VJQfT[fTT^_WSYQcRwXS0VKCQPxBk1",
  "0Vr_hTlUstIae0R8UcXJRcQAQXRlc?0ScdHQ=S1S;Rsae0TtRlSmQZRk0[5WPpIQ=JRkUfQXQjyKVTSMTNCRbR8RtR4",
  "j5@Ru[;QfUf_AR6Ws=Z_T]0SC@VnTNQXTb0p]a:Q?t4WKxRFg4EOkbQTSmQkdrnC0J[oOUs=RgRIH[xEU^UsQhEQ?eCITQ",
  "2m:SAUs[]QQU<xzQ0srKku=KQNQARWOT[RDJYVj^DT]0TpWCWsZSXHYI0RE[8SMWsQQQ<][0T6QlY6j5R<R^XURTAR6yKQTO",
  "tkSZhUIRDUIZbSXQM?UIZbtm_DbgQoR[peU@RfWcUBS9=eMR^cB45fHU_?UB0g3]LZbT[QnR^XUT:T[vnrY",
  "qyVOFcwSQQvTDR[d[Rs[bXTXWvAY1vAUsQMI;^TvA2W9vA0aTVXc>nTQCRWQDT]0]UQaVOOx3K[7SSQE@ZpS5[=RS[=el",
  "[=Rq[=fq[=lPsARq[=S0[=em[=kZsAS0[=o<[=W;S0[=Y[S0sAo<[=S>[=fr[=mpsAS>[=pE[=Y[S>sApE[=_s[=Q2_s",
  "[=Q3_ssA_s[=Q4_s[=W;_s[=Y[_ssAQ4_s[=S6[=fC[=lQsAS6[=ms[=W;S6[=Y[S6sAms[=ad[=Q2adsAad[=Q4ad[=W;ad",
  "[=Y[adsAQ4ad[=aG[=Q2aG[=Q3aGsAaG[=Q4aG[=W;aG[=Y[aGsAQ4aG[=pJ[=Q2pJ[=Q3pJsApJ[=Q4pJ[=W;pJ[=Y[pJ",
  "nbSpK[7;fHb5Ydm5hFQJW81d7Ydm5hFQJW89m5hF]wK[7;fHd7YdtLhFQJW81b5YdtLhFQJW89tLhF9YrtLgYqZzwb5gY",
  "9m5gYqZzwd7gY9tLgYqZzwcJW8_lK[7;fHd7o1Y0d7gY9tLgYqZzwb5gY9m5gYqZzw[NW89Yrm5gYj6SrK[7;fHb5Ydm5hF",
  "QJW81d7Ydm5hFQJW89m5hF_lK[7;fHd7YdtLhFQJW81b5YdtLhFQJW89tLhF9YrtLgYqZzwb5gY9m5gYqZzwd7gY9tLgY",
  "qZzwcJW8]wK[7;fHd7o1Y0d7gY9tLgYqZzwb5gY9m5gYqZzw[NW89Yrm5gY2eDr4q6VQ]fjtZMr4eDq6VQ]fjt",
  "j6ggr4q6VQ]fjtZMR[cJeDq6VQ]fjt2q6rmffj6q6rmff]Pq6rmffnbq6rmffs<puRl[7XnS[[7dgS[[7kQS[[7qhS[[7u_",
  "S[[7MSB0]VpuRl[7XnS[[7dgS[[7kQS[[7qhS[[7u_S[[7MSBZMr4vZ5cJvZ]PR[cJvZf^TDvZj6r4vZ0]VpuRl[7MW;dj",
  "j6rmfftpv72fKv7tp]fjtQwb0v7]Prmfftpv72fKv7tp]fjtQwb0v7ZM_bxk]P_bxkj6_bxknb_bxk0Xzbpxk",
  "j6_>[7Y;[N_bXzbpxk5XzbptO[Ar4_>YXdiSp_bXzbptO[AeD_>YXTNQyRbTDR0z[lrRd0XzbpY^RbTDR0z[lrRdch]VlrRd",
  "j6b4[NSrlrRd]wY0[NSplrRd2r4q6_>YXZMeDq6_>YXj6Spq6xk]wq6xknbSrq6xk_lq6xk",
  "s7UKQ<QzQDQvQo]qfHd7o1VKYdZ0QIW81Yrm5hF9SrY0b5hF1d7o1VKYdm5hFQISrY0b5hF1Yrm5o1VKgYQHd7o1VKgY",
  "1d7o1VKYdSpR[YrSrY0b5hFQISrR[Yrm5hFQJY0b5o1VKYdZ0QIm5o1VKgY1YrtLo1VKYdSrY0b5hF9SrY0d7o1VKYdm5hF",
  "1er3bMFcg0RRVrMrsQsU1b:0XzbpY^RbUNZM_bQAR;Q?R^ITQ]P_bQAR;Q?R^ITQ0XzbpXXW?vlRCoqY1RRY;cJr4vZ",
  "XWRRY;cJr4vZ]?RRY;SrvZ]jRRY;SrvZZMVpSQTpxI]PVpSQTpxI0htScQsn@iD]P^iZnQsXwgMx[fHBcIRmUiSrY0b5hF",
  "5erXxYpwtQ]QhFR8TcQsjZoVZMbqQ<X0SrnNXJUibqQ<X0SrnN]PbqQ<X0SrnNgMXQQ]_jrohnSXrxSQQWvqSRrSsoQof2XT",
  "w=QTR^Z03W8SRQ[cOXdOXxRLjQY^QCQASAQ3kbQBg4IQURuZF^NZ5ZNZkZj[V[g[T[fBURZ^RXJRr?qzREShQ2Q=RXf3o2",
  "2oX2l2YHtgSo2QptHQOSo2VdzgSo2Sqm:Uw2snDUd_lc_]wc_2_<2dUSotr2lvQUMhhVnttQwrk^z^NZ5ZNZkZj[V[g[T[f",
  "Qga2QwxP2ZszR2n<2]JzRw7QgQkIQNBAQ_X92jj[6i>i?hA_5jGjHgUb_jIhBc0gVi@_qhCkJeefegW^@iAgXiBjJiC",
  "2RCfSaJ2y1rk2RMfSaJQgSiS7XYbI2xj2x]2hg[6i>i?hA_5jGjHgUb_jIhBc0gVi@_qhCkJeefegW^@iAgXiBjJiC_luy",
  "2Vtc[]wuy2ZLTNiSRD;REShQ9sbTGfsX1SBX=RvX1RvX=S^X1S^[RSj[JSj[RS5[JS5[RRS[JRS[RRq[JRq[RS0[JS0[RS>",
  "[JS>[RS6[JS6[RSB[JSB[RRv[JRv[RS^[JS^THpDTFpDTHscTFscTHsdTFsdTHseTFseTHo<TFo<THpETFpETHmsTFmsTHpF",
  "TFpFTHpGTFpGTHo=TFo=THiNTFiNTHjSTFjSTHftTFftTHiOTFiOTHk]TFk]TH_sTF_sTHadTFadTHdBTFdBTHc:TFc:THfu",
  "TFfuTHfvTFfvTHgaTFgaTHfwTFfwTHenTFenTHgbTFgbTHgcTFgcTHaGTFaGTHcnTFcnTHdjTFdjTHk^TFk^THlSTFlSTHlT",
  "TFlTTHlUTFlUTHlVTFlVTHjUTFjUTHk_TFk_THkaTFkaTH]bTF]bTH]FTF]FTHmuTFmuTHkcTFkcTHlWTFlWTHmvTFmvTHpK",
  "TFpKTHo>TFo>THpLTFpLTHpMTFpMTHo?TFo?THXRTFXRTHo@TFo@THkdTFkdTHlXTFlXTHoATFoATHmwTFmwTHmxTFmxTHoB",
  "TFoBTHpNTFpNTHpOTFpOTHoCTFoCTHmyTFmyTHmzTFmzTHoDTFoDTHn0TFn0THquTFquTHpPTFpPTHn1TFn1THpQTFpQTHqv",
  "TFqvTHqwTFqwTHqxTFqxX=bGX1bGX=gZX1gZX=fnX1fnX=hMX1hMX=hNX1hNX=hOX1hOX=iHX1iHX=iIX1iIX=foX1foX=g[",
  "X1g[X=eAX1eAX=dhX1dhX=elX1elX=fqX1fqX=emX1emX=frX1frX=fCX1fCX=fsX1fsX=fDX1fDX=g_X1g_THUpSjzISj",
  "THUpS5zIS5THUpRSzIRSTHUpRqzIRqTHUpS0zIS0THUpS>zIS>THUpS6zIS6THUpSBzISBTHUpRvzIRvTHUpS^zIS^THW;Sj",
  "zJSjTHW;S5zJS5THW;RSzJRSTHW;RqzJRqTHW;S0zJS0THW;S>zJS>THW;S6zJS6THW;SBzJSBTHW;RvzJRvTHW;S^zJS^",
  "X=iNX1iNX=jSX1jSX=ftX1ftX=iOX1iOX=k]X1k]X=_sX1_sX=adX1adX=dBX1dBX=c:X1c:X=fuX1fuX=fvX1fvX=gaX1ga",
  "X=fwX1fwX=enX1enX=gbX1gbX=gcX1gcX=aGX1aGX=cnX1cnX=djX1djX=k^X1k^X=lSX1lSX=lTX1lTX=lUX1lUX=lVX1lV",
  "X=jUX1jUX=k_X1k_X=kaX1kaX=]bX1]bX=]FX1]FX=muX1muX=kcX1kcX=lWX1lWX=mvX1mvX=pKX1pKX=o>X1o>X=pLX1pL",
  "X=pMX1pMX=o?X1o?X=XRX1XRX=o@X1o@X=kdX1kdX=lXX1lXX=oAX1oAX=mwX1mwX=mxX1mxX=oBX1oBX=pNX1pNX=pOX1pO",
  "X=oCX1oCX=myX1myX=mzX1mzX=oDX1oDX=n0X1n0X=quX1quX=pPX1pPX=n1X1n1X=pQX1pQX=qvX1qvX=qwX1qwX=qxX1qx",
  "[RbG[JbG[RgZ[JgZ[Rfn[Jfn[RhM[JhM[RhN[JhN[RhO[JhO[RiH[JiH[RiI[JiI[Rfo[Jfo[Rg[[Jg[[ReA[JeA[Rdh[Jdh",
  "[Rel[Jel[Rfq[Jfq[Rem[Jem[Rfr[Jfr[RfC[JfC[Rfs[Jfs[RfD[JfD[Rg_[Jg_[RkX[JkX[RkY[JkY[Rmo[Jmo[RlP[JlP",
  "[RkZ[JkZ[Rmp[Jmp[RlQ[JlQ[Rmq[Jmq[Rmr[Jmr[RlR[JlRTHY[SjzKSjTHY[S5zKS5THY[RSzKRSTHY[RqzKRqTHY[S0",
  "zKS0THY[S>zKS>THY[S6zKS6THY[SBzKSBTHY[RvzKRvTHY[S^zKS^[RiN[JiN[RjS[JjS[Rft[Jft[RiO[JiO[Rk][Jk]",
  "[R_s[J_s[Rad[Jad[RdB[JdB[Rc:[Jc:[Rfu[Jfu[Rfv[Jfv[Rga[Jga[Rfw[Jfw[Ren[Jen[Rgb[Jgb[Rgc[Jgc[RaG[JaG"]

end PersistedOps.Text.CharacterName
