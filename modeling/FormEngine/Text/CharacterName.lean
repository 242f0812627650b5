/-!
Characters by their names in the character standard: the alphabets and signs in wide use, the
ideographs, whose names hold their code points, and the Hangul syllables, whose names spell them.
-/

namespace FormEngine

/-- Names of every `step`-th code point from `first` on: a common beginning and the ends, in lines
with commas between the ends. -/
structure NameRun where
  first : Nat
  step : Nat
  stem : String
  lines : List String

namespace CharacterName

def runs : List NameRun := [
  ⟨32, 1, "", ["SPACE,EXCLAMATION MARK,QUOTATION MARK,NUMBER SIGN,DOLLAR SIGN,PERCENT SIGN",
    "AMPERSAND,APOSTROPHE,LEFT PARENTHESIS,RIGHT PARENTHESIS,ASTERISK,PLUS SIGN,COMMA",
    "HYPHEN-MINUS,FULL STOP,SOLIDUS"]⟩,
  ⟨48, 1, "DIGIT", ["ZERO,ONE,TWO,THREE,FOUR,FIVE,SIX,SEVEN,EIGHT,NINE"]⟩,
  ⟨58, 1, "", ["COLON,SEMICOLON,LESS-THAN SIGN,EQUALS SIGN,GREATER-THAN SIGN,QUESTION MARK",
    "COMMERCIAL AT"]⟩,
  ⟨65, 1, "LATIN CAPITAL LETTER", ["A,B,C,D,E,F,G,H,I,J,K,L,M,N,O,P,Q,R,S,T,U,V,W,X,Y,Z"]⟩,
  ⟨91, 1, "", ["LEFT SQUARE BRACKET,REVERSE SOLIDUS,RIGHT SQUARE BRACKET,CIRCUMFLEX ACCENT",
    "LOW LINE,GRAVE ACCENT"]⟩,
  ⟨97, 1, "LATIN SMALL LETTER", ["A,B,C,D,E,F,G,H,I,J,K,L,M,N,O,P,Q,R,S,T,U,V,W,X,Y,Z"]⟩,
  ⟨123, 1, "", ["LEFT CURLY BRACKET,VERTICAL LINE,RIGHT CURLY BRACKET,TILDE"]⟩,
  ⟨160, 1, "", ["NO-BREAK SPACE,INVERTED EXCLAMATION MARK,CENT SIGN,POUND SIGN,CURRENCY SIGN",
    "YEN SIGN,BROKEN BAR,SECTION SIGN,DIAERESIS,COPYRIGHT SIGN,FEMININE ORDINAL INDICATOR",
    "LEFT-POINTING DOUBLE ANGLE QUOTATION MARK,NOT SIGN,SOFT HYPHEN,REGISTERED SIGN,MACRON",
    "DEGREE SIGN,PLUS-MINUS SIGN,SUPERSCRIPT TWO,SUPERSCRIPT THREE,ACUTE ACCENT,MICRO SIGN",
    "PILCROW SIGN,MIDDLE DOT,CEDILLA,SUPERSCRIPT ONE,MASCULINE ORDINAL INDICATOR",
    "RIGHT-POINTING DOUBLE ANGLE QUOTATION MARK"]⟩,
  ⟨188, 1, "VULGAR FRACTION", ["ONE QUARTER,ONE HALF,THREE QUARTERS"]⟩,
  ⟨191, 1, "INVERTED", ["QUESTION MARK"]⟩,
  ⟨192, 1, "LATIN CAPITAL LETTER A WITH", ["GRAVE,ACUTE,CIRCUMFLEX,TILDE,DIAERESIS,RING ABOVE"]⟩,
  ⟨198, 1, "LATIN CAPITAL LETTER", ["AE,C WITH CEDILLA,E WITH GRAVE,E WITH ACUTE",
    "E WITH CIRCUMFLEX,E WITH DIAERESIS,I WITH GRAVE,I WITH ACUTE,I WITH CIRCUMFLEX",
    "I WITH DIAERESIS,ETH,N WITH TILDE,O WITH GRAVE,O WITH ACUTE,O WITH CIRCUMFLEX,O WITH TILDE",
    "O WITH DIAERESIS"]⟩,
  ⟨215, 1, "MULTIPLICATION", ["SIGN"]⟩,
  ⟨216, 1, "LATIN CAPITAL LETTER", ["O WITH STROKE,U WITH GRAVE,U WITH ACUTE,U WITH CIRCUMFLEX",
    "U WITH DIAERESIS,Y WITH ACUTE,THORN"]⟩,
  ⟨223, 1, "LATIN SMALL LETTER", ["SHARP S,A WITH GRAVE,A WITH ACUTE,A WITH CIRCUMFLEX",
    "A WITH TILDE,A WITH DIAERESIS,A WITH RING ABOVE,AE,C WITH CEDILLA,E WITH GRAVE,E WITH ACUTE",
    "E WITH CIRCUMFLEX,E WITH DIAERESIS,I WITH GRAVE,I WITH ACUTE,I WITH CIRCUMFLEX",
    "I WITH DIAERESIS,ETH,N WITH TILDE,O WITH GRAVE,O WITH ACUTE,O WITH CIRCUMFLEX,O WITH TILDE",
    "O WITH DIAERESIS"]⟩,
  ⟨247, 1, "DIVISION", ["SIGN"]⟩,
  ⟨248, 1, "LATIN SMALL LETTER", ["O WITH STROKE,U WITH GRAVE,U WITH ACUTE,U WITH CIRCUMFLEX",
    "U WITH DIAERESIS,Y WITH ACUTE,THORN,Y WITH DIAERESIS"]⟩,
  ⟨256, 2, "LATIN CAPITAL LETTER", ["A WITH MACRON,A WITH BREVE,A WITH OGONEK,C WITH ACUTE",
    "C WITH CIRCUMFLEX,C WITH DOT ABOVE,C WITH CARON,D WITH CARON,D WITH STROKE,E WITH MACRON",
    "E WITH BREVE,E WITH DOT ABOVE,E WITH OGONEK,E WITH CARON,G WITH CIRCUMFLEX,G WITH BREVE",
    "G WITH DOT ABOVE,G WITH CEDILLA,H WITH CIRCUMFLEX,H WITH STROKE,I WITH TILDE,I WITH MACRON",
    "I WITH BREVE,I WITH OGONEK"]⟩,
  ⟨257, 2, "LATIN SMALL LETTER", ["A WITH MACRON,A WITH BREVE,A WITH OGONEK,C WITH ACUTE",
    "C WITH CIRCUMFLEX,C WITH DOT ABOVE,C WITH CARON,D WITH CARON,D WITH STROKE,E WITH MACRON",
    "E WITH BREVE,E WITH DOT ABOVE,E WITH OGONEK,E WITH CARON,G WITH CIRCUMFLEX,G WITH BREVE",
    "G WITH DOT ABOVE,G WITH CEDILLA,H WITH CIRCUMFLEX,H WITH STROKE,I WITH TILDE,I WITH MACRON",
    "I WITH BREVE,I WITH OGONEK"]⟩,
  ⟨304, 1, "LATIN", ["CAPITAL LETTER I WITH DOT ABOVE,SMALL LETTER DOTLESS I,CAPITAL LIGATURE IJ",
    "SMALL LIGATURE IJ,CAPITAL LETTER J WITH CIRCUMFLEX,SMALL LETTER J WITH CIRCUMFLEX",
    "CAPITAL LETTER K WITH CEDILLA,SMALL LETTER K WITH CEDILLA,SMALL LETTER KRA"]⟩,
  ⟨313, 2, "LATIN CAPITAL LETTER", ["L WITH ACUTE,L WITH CEDILLA,L WITH CARON,L WITH MIDDLE DOT",
    "L WITH STROKE,N WITH ACUTE,N WITH CEDILLA,N WITH CARON"]⟩,
  ⟨314, 2, "LATIN SMALL LETTER", ["L WITH ACUTE,L WITH CEDILLA,L WITH CARON,L WITH MIDDLE DOT",
    "L WITH STROKE,N WITH ACUTE,N WITH CEDILLA,N WITH CARON"]⟩,
  ⟨329, 1, "LATIN", ["SMALL LETTER N PRECEDED BY APOSTROPHE"]⟩,
  ⟨330, 2, "LATIN CAPITAL LETTER", ["ENG,O WITH MACRON,O WITH BREVE,O WITH DOUBLE ACUTE"]⟩,
  ⟨331, 2, "LATIN SMALL LETTER", ["ENG,O WITH MACRON,O WITH BREVE,O WITH DOUBLE ACUTE"]⟩,
  ⟨338, 1, "LATIN", ["CAPITAL LIGATURE OE,SMALL LIGATURE OE"]⟩,
  ⟨340, 2, "LATIN CAPITAL LETTER", ["R WITH ACUTE,R WITH CEDILLA,R WITH CARON,S WITH ACUTE",
    "S WITH CIRCUMFLEX,S WITH CEDILLA,S WITH CARON,T WITH CEDILLA,T WITH CARON,T WITH STROKE",
    "U WITH TILDE,U WITH MACRON,U WITH BREVE,U WITH RING ABOVE,U WITH DOUBLE ACUTE,U WITH OGONEK",
    "W WITH CIRCUMFLEX,Y WITH CIRCUMFLEX"]⟩,
  ⟨341, 2, "LATIN SMALL LETTER", ["R WITH ACUTE,R WITH CEDILLA,R WITH CARON,S WITH ACUTE",
    "S WITH CIRCUMFLEX,S WITH CEDILLA,S WITH CARON,T WITH CEDILLA,T WITH CARON,T WITH STROKE",
    "U WITH TILDE,U WITH MACRON,U WITH BREVE,U WITH RING ABOVE,U WITH DOUBLE ACUTE,U WITH OGONEK",
    "W WITH CIRCUMFLEX,Y WITH CIRCUMFLEX"]⟩,
  ⟨376, 1, "LATIN", ["CAPITAL LETTER Y WITH DIAERESIS"]⟩,
  ⟨377, 2, "LATIN CAPITAL LETTER", ["Z WITH ACUTE,Z WITH DOT ABOVE,Z WITH CARON"]⟩,
  ⟨378, 2, "LATIN SMALL LETTER", ["Z WITH ACUTE,Z WITH DOT ABOVE,Z WITH CARON"]⟩,
  ⟨383, 1, "LATIN", ["SMALL LETTER LONG S,SMALL LETTER B WITH STROKE,CAPITAL LETTER B WITH HOOK",
    "CAPITAL LETTER B WITH TOPBAR,SMALL LETTER B WITH TOPBAR,CAPITAL LETTER TONE SIX",
    "SMALL LETTER TONE SIX,CAPITAL LETTER OPEN O,CAPITAL LETTER C WITH HOOK",
    "SMALL LETTER C WITH HOOK"]⟩,
  ⟨393, 1, "LATIN CAPITAL LETTER", ["AFRICAN D,D WITH HOOK,D WITH TOPBAR"]⟩,
  ⟨396, 1, "LATIN SMALL LETTER", ["D WITH TOPBAR,TURNED DELTA"]⟩,
  ⟨398, 1, "LATIN CAPITAL LETTER", ["REVERSED E,SCHWA,OPEN E,F WITH HOOK"]⟩,
  ⟨402, 1, "LATIN", ["SMALL LETTER F WITH HOOK,CAPITAL LETTER G WITH HOOK,CAPITAL LETTER GAMMA",
    "SMALL LETTER HV,CAPITAL LETTER IOTA,CAPITAL LETTER I WITH STROKE,CAPITAL LETTER K WITH HOOK",
    "SMALL LETTER K WITH HOOK,SMALL LETTER L WITH BAR,SMALL LETTER LAMBDA WITH STROKE",
    "CAPITAL LETTER TURNED M,CAPITAL LETTER N WITH LEFT HOOK,SMALL LETTER N WITH LONG RIGHT LEG",
    "CAPITAL LETTER O WITH MIDDLE TILDE"]⟩,
  ⟨416, 2, "LATIN CAPITAL LETTER", ["O WITH HORN,OI,P WITH HOOK"]⟩,
  ⟨417, 2, "LATIN SMALL LETTER", ["O WITH HORN,OI,P WITH HOOK"]⟩,
  ⟨422, 1, "LATIN", ["LETTER YR,CAPITAL LETTER TONE TWO,SMALL LETTER TONE TWO,CAPITAL LETTER ESH",
    "LETTER REVERSED ESH LOOP,SMALL LETTER T WITH PALATAL HOOK,CAPITAL LETTER T WITH HOOK",
    "SMALL LETTER T WITH HOOK,CAPITAL LETTER T WITH RETROFLEX HOOK,CAPITAL LETTER U WITH HORN",
    "SMALL LETTER U WITH HORN,CAPITAL LETTER UPSILON,CAPITAL LETTER V WITH HOOK",
    "CAPITAL LETTER Y WITH HOOK,SMALL LETTER Y WITH HOOK,CAPITAL LETTER Z WITH STROKE",
    "SMALL LETTER Z WITH STROKE,CAPITAL LETTER EZH,CAPITAL LETTER EZH REVERSED",
    "SMALL LETTER EZH REVERSED,SMALL LETTER EZH WITH TAIL,LETTER TWO WITH STROKE",
    "CAPITAL LETTER TONE FIVE,SMALL LETTER TONE FIVE,LETTER INVERTED GLOTTAL STOP WITH STROKE",
    "LETTER WYNN,LETTER DENTAL CLICK,LETTER LATERAL CLICK,LETTER ALVEOLAR CLICK",
    "LETTER RETROFLEX CLICK,CAPITAL LETTER DZ WITH CARON",
    "CAPITAL LETTER D WITH SMALL LETTER Z WITH CARON,SMALL LETTER DZ WITH CARON",
    "CAPITAL LETTER LJ,CAPITAL LETTER L WITH SMALL LETTER J,SMALL LETTER LJ,CAPITAL LETTER NJ",
    "CAPITAL LETTER N WITH SMALL LETTER J,SMALL LETTER NJ"]⟩,
  ⟨461, 2, "LATIN CAPITAL LETTER", ["A WITH CARON,I WITH CARON,O WITH CARON,U WITH CARON",
    "U WITH DIAERESIS AND MACRON,U WITH DIAERESIS AND ACUTE,U WITH DIAERESIS AND CARON",
    "U WITH DIAERESIS AND GRAVE"]⟩,
  ⟨462, 2, "LATIN SMALL LETTER", ["A WITH CARON,I WITH CARON,O WITH CARON,U WITH CARON",
    "U WITH DIAERESIS AND MACRON,U WITH DIAERESIS AND ACUTE,U WITH DIAERESIS AND CARON",
    "U WITH DIAERESIS AND GRAVE"]⟩,
  ⟨477, 1, "LATIN", ["SMALL LETTER TURNED E"]⟩,
  ⟨478, 2, "LATIN CAPITAL LETTER", ["A WITH DIAERESIS AND MACRON,A WITH DOT ABOVE AND MACRON",
    "AE WITH MACRON,G WITH STROKE,G WITH CARON,K WITH CARON,O WITH OGONEK",
    "O WITH OGONEK AND MACRON,EZH WITH CARON"]⟩,
  ⟨479, 2, "LATIN SMALL LETTER", ["A WITH DIAERESIS AND MACRON,A WITH DOT ABOVE AND MACRON",
    "AE WITH MACRON,G WITH STROKE,G WITH CARON,K WITH CARON,O WITH OGONEK",
    "O WITH OGONEK AND MACRON,EZH WITH CARON"]⟩,
  ⟨496, 1, "LATIN", ["SMALL LETTER J WITH CARON,CAPITAL LETTER DZ",
    "CAPITAL LETTER D WITH SMALL LETTER Z,SMALL LETTER DZ,CAPITAL LETTER G WITH ACUTE",
    "SMALL LETTER G WITH ACUTE,CAPITAL LETTER HWAIR,CAPITAL LETTER WYNN"]⟩,
  ⟨504, 2, "LATIN CAPITAL LETTER", ["N WITH GRAVE,A WITH RING ABOVE AND ACUTE,AE WITH ACUTE",
    "O WITH STROKE AND ACUTE,A WITH DOUBLE GRAVE,A WITH INVERTED BREVE,E WITH DOUBLE GRAVE",
    "E WITH INVERTED BREVE,I WITH DOUBLE GRAVE,I WITH INVERTED BREVE,O WITH DOUBLE GRAVE",
    "O WITH INVERTED BREVE,R WITH DOUBLE GRAVE,R WITH INVERTED BREVE,U WITH DOUBLE GRAVE",
    "U WITH INVERTED BREVE,S WITH COMMA BELOW,T WITH COMMA BELOW,YOGH,H WITH CARON"]⟩,
  ⟨505, 2, "LATIN SMALL LETTER", ["N WITH GRAVE,A WITH RING ABOVE AND ACUTE,AE WITH ACUTE",
    "O WITH STROKE AND ACUTE,A WITH DOUBLE GRAVE,A WITH INVERTED BREVE,E WITH DOUBLE GRAVE",
    "E WITH INVERTED BREVE,I WITH DOUBLE GRAVE,I WITH INVERTED BREVE,O WITH DOUBLE GRAVE",
    "O WITH INVERTED BREVE,R WITH DOUBLE GRAVE,R WITH INVERTED BREVE,U WITH DOUBLE GRAVE",
    "U WITH INVERTED BREVE,S WITH COMMA BELOW,T WITH COMMA BELOW,YOGH,H WITH CARON"]⟩,
  ⟨544, 1, "LATIN", ["CAPITAL LETTER N WITH LONG RIGHT LEG,SMALL LETTER D WITH CURL"]⟩,
  ⟨546, 2, "LATIN CAPITAL LETTER", ["OU,Z WITH HOOK,A WITH DOT ABOVE,E WITH CEDILLA",
    "O WITH DIAERESIS AND MACRON,O WITH TILDE AND MACRON,O WITH DOT ABOVE",
    "O WITH DOT ABOVE AND MACRON,Y WITH MACRON"]⟩,
  ⟨547, 2, "LATIN SMALL LETTER", ["OU,Z WITH HOOK,A WITH DOT ABOVE,E WITH CEDILLA",
    "O WITH DIAERESIS AND MACRON,O WITH TILDE AND MACRON,O WITH DOT ABOVE",
    "O WITH DOT ABOVE AND MACRON,Y WITH MACRON"]⟩,
  ⟨564, 1, "LATIN SMALL LETTER", ["L WITH CURL,N WITH CURL,T WITH CURL,DOTLESS J,DB DIGRAPH",
    "QP DIGRAPH"]⟩,
  ⟨570, 1, "LATIN", ["CAPITAL LETTER A WITH STROKE,CAPITAL LETTER C WITH STROKE",
    "SMALL LETTER C WITH STROKE,CAPITAL LETTER L WITH BAR,CAPITAL LETTER T WITH DIAGONAL STROKE",
    "SMALL LETTER S WITH SWASH TAIL,SMALL LETTER Z WITH SWASH TAIL,CAPITAL LETTER GLOTTAL STOP",
    "SMALL LETTER GLOTTAL STOP"]⟩,
  ⟨579, 1, "LATIN CAPITAL LETTER", ["B WITH STROKE,U BAR,TURNED V,E WITH STROKE"]⟩,
  ⟨583, 1, "LATIN", ["SMALL LETTER E WITH STROKE,CAPITAL LETTER J WITH STROKE",
    "SMALL LETTER J WITH STROKE,CAPITAL LETTER SMALL Q WITH HOOK TAIL",
    "SMALL LETTER Q WITH HOOK TAIL,CAPITAL LETTER R WITH STROKE,SMALL LETTER R WITH STROKE",
    "CAPITAL LETTER Y WITH STROKE"]⟩,
  ⟨591, 1, "LATIN SMALL LETTER", ["Y WITH STROKE,TURNED A,ALPHA,TURNED ALPHA,B WITH HOOK,OPEN O",
    "C WITH CURL,D WITH TAIL,D WITH HOOK,REVERSED E,SCHWA,SCHWA WITH HOOK,OPEN E,REVERSED OPEN E",
    "REVERSED OPEN E WITH HOOK,CLOSED REVERSED OPEN E,DOTLESS J WITH STROKE,G WITH HOOK,SCRIPT G"]⟩,
  ⟨610, 1, "LATIN", ["LETTER SMALL CAPITAL G"]⟩,
  ⟨611, 1, "LATIN SMALL LETTER", ["GAMMA,RAMS HORN,TURNED H,H WITH HOOK,HENG WITH HOOK",
    "I WITH STROKE,IOTA"]⟩,
  ⟨618, 1, "LATIN", ["LETTER SMALL CAPITAL I"]⟩,
  ⟨619, 1, "LATIN SMALL LETTER", ["L WITH MIDDLE TILDE,L WITH BELT,L WITH RETROFLEX HOOK,LEZH",
    "TURNED M,TURNED M WITH LONG LEG,M WITH HOOK,N WITH LEFT HOOK,N WITH RETROFLEX HOOK"]⟩,
  ⟨628, 1, "LATIN", ["LETTER SMALL CAPITAL N,SMALL LETTER BARRED O,LETTER SMALL CAPITAL OE"]⟩,
  ⟨631, 1, "LATIN SMALL LETTER", ["CLOSED OMEGA,PHI,TURNED R,TURNED R WITH LONG LEG",
    "TURNED R WITH HOOK,R WITH LONG LEG,R WITH TAIL,R WITH FISHHOOK,REVERSED R WITH FISHHOOK"]⟩,
  ⟨640, 1, "LATIN LETTER SMALL CAPITAL", ["R,INVERTED R"]⟩,
  ⟨642, 1, "LATIN SMALL LETTER", ["S WITH HOOK,ESH,DOTLESS J WITH STROKE AND HOOK",
    "SQUAT REVERSED ESH,ESH WITH CURL,TURNED T,T WITH RETROFLEX HOOK,U BAR,UPSILON,V WITH HOOK",
    "TURNED V,TURNED W,TURNED Y"]⟩,
  ⟨655, 1, "LATIN", ["LETTER SMALL CAPITAL Y"]⟩,
  ⟨656, 1, "LATIN SMALL LETTER", ["Z WITH RETROFLEX HOOK,Z WITH CURL,EZH,EZH WITH CURL"]⟩,
  ⟨660, 1, "LATIN LETTER", ["GLOTTAL STOP,PHARYNGEAL VOICED FRICATIVE,INVERTED GLOTTAL STOP",
    "STRETCHED C,BILABIAL CLICK,SMALL CAPITAL B"]⟩,
  ⟨666, 1, "LATIN", ["SMALL LETTER CLOSED OPEN E,LETTER SMALL CAPITAL G WITH HOOK",
    "LETTER SMALL CAPITAL H,SMALL LETTER J WITH CROSSED-TAIL,SMALL LETTER TURNED K",
    "LETTER SMALL CAPITAL L,SMALL LETTER Q WITH HOOK,LETTER GLOTTAL STOP WITH STROKE",
    "LETTER REVERSED GLOTTAL STOP WITH STROKE"]⟩,
  ⟨675, 1, "LATIN SMALL LETTER", ["DZ DIGRAPH,DEZH DIGRAPH,DZ DIGRAPH WITH CURL,TS DIGRAPH",
    "TESH DIGRAPH,TC DIGRAPH WITH CURL,FENG DIGRAPH,LS DIGRAPH,LZ DIGRAPH"]⟩,
  ⟨684, 1, "LATIN LETTER", ["BILABIAL PERCUSSIVE,BIDENTAL PERCUSSIVE"]⟩,
  ⟨686, 1, "LATIN SMALL LETTER TURNED H WITH", ["FISHHOOK,FISHHOOK AND TAIL"]⟩,
  ⟨688, 1, "MODIFIER LETTER SMALL", ["H,H WITH HOOK,J,R,TURNED R,TURNED R WITH HOOK",
    "CAPITAL INVERTED R,W,Y"]⟩,
  ⟨697, 1, "MODIFIER LETTER", ["PRIME,DOUBLE PRIME,TURNED COMMA,APOSTROPHE,REVERSED COMMA",
    "RIGHT HALF RING,LEFT HALF RING,GLOTTAL STOP,REVERSED GLOTTAL STOP,LEFT ARROWHEAD",
    "RIGHT ARROWHEAD,UP ARROWHEAD,DOWN ARROWHEAD,CIRCUMFLEX ACCENT"]⟩,
  ⟨711, 1, "", ["CARON"]⟩,
  ⟨712, 1, "MODIFIER LETTER", ["VERTICAL LINE,MACRON,ACUTE ACCENT,GRAVE ACCENT,LOW VERTICAL LINE",
    "LOW MACRON,LOW GRAVE ACCENT,LOW ACUTE ACCENT,TRIANGULAR COLON,HALF TRIANGULAR COLON",
    "CENTRED RIGHT HALF RING,CENTRED LEFT HALF RING,UP TACK,DOWN TACK,PLUS SIGN,MINUS SIGN"]⟩,
  ⟨728, 1, "", ["BREVE,DOT ABOVE,RING ABOVE,OGONEK,SMALL TILDE,DOUBLE ACUTE ACCENT"]⟩,
  ⟨734, 1, "MODIFIER LETTER", ["RHOTIC HOOK,CROSS ACCENT,SMALL GAMMA,SMALL L,SMALL S,SMALL X",
    "SMALL REVERSED GLOTTAL STOP,EXTRA-HIGH TONE BAR,HIGH TONE BAR,MID TONE BAR,LOW TONE BAR",
    "EXTRA-LOW TONE BAR,YIN DEPARTING TONE MARK,YANG DEPARTING TONE MARK,VOICING,UNASPIRATED",
    "DOUBLE APOSTROPHE,LOW DOWN ARROWHEAD,LOW UP ARROWHEAD,LOW LEFT ARROWHEAD",
    "LOW RIGHT ARROWHEAD,LOW RING,MIDDLE GRAVE ACCENT,MIDDLE DOUBLE GRAVE ACCENT",
    "MIDDLE DOUBLE ACUTE ACCENT,LOW TILDE,RAISED COLON,BEGIN HIGH TONE,END HIGH TONE",
    "BEGIN LOW TONE,END LOW TONE,SHELF,OPEN SHELF,LOW LEFT ARROW"]⟩,
  ⟨768, 1, "COMBINING", ["GRAVE ACCENT,ACUTE ACCENT,CIRCUMFLEX ACCENT,TILDE,MACRON,OVERLINE",
    "BREVE,DOT ABOVE,DIAERESIS,HOOK ABOVE,RING ABOVE,DOUBLE ACUTE ACCENT,CARON",
    "VERTICAL LINE ABOVE,DOUBLE VERTICAL LINE ABOVE,DOUBLE GRAVE ACCENT,CANDRABINDU",
    "INVERTED BREVE,TURNED COMMA ABOVE,COMMA ABOVE,REVERSED COMMA ABOVE,COMMA ABOVE RIGHT",
    "GRAVE ACCENT BELOW,ACUTE ACCENT BELOW,LEFT TACK BELOW,RIGHT TACK BELOW,LEFT ANGLE ABOVE",
    "HORN,LEFT HALF RING BELOW,UP TACK BELOW,DOWN TACK BELOW,PLUS SIGN BELOW,MINUS SIGN BELOW",
    "PALATALIZED HOOK BELOW,RETROFLEX HOOK BELOW,DOT BELOW,DIAERESIS BELOW,RING BELOW",
    "COMMA BELOW,CEDILLA,OGONEK,VERTICAL LINE BELOW,BRIDGE BELOW,INVERTED DOUBLE ARCH BELOW",
    "CARON BELOW,CIRCUMFLEX ACCENT BELOW,BREVE BELOW,INVERTED BREVE BELOW,TILDE BELOW",
    "MACRON BELOW,LOW LINE,DOUBLE LOW LINE,TILDE OVERLAY,SHORT STROKE OVERLAY",
    "LONG STROKE OVERLAY,SHORT SOLIDUS OVERLAY,LONG SOLIDUS OVERLAY,RIGHT HALF RING BELOW",
    "INVERTED BRIDGE BELOW,SQUARE BELOW,SEAGULL BELOW,X ABOVE,VERTICAL TILDE,DOUBLE OVERLINE",
    "GRAVE TONE MARK,ACUTE TONE MARK,GREEK PERISPOMENI,GREEK KORONIS,GREEK DIALYTIKA TONOS",
    "GREEK YPOGEGRAMMENI,BRIDGE ABOVE,EQUALS SIGN BELOW,DOUBLE VERTICAL LINE BELOW",
    "LEFT ANGLE BELOW,NOT TILDE ABOVE,HOMOTHETIC ABOVE,ALMOST EQUAL TO ABOVE",
    "LEFT RIGHT ARROW BELOW,UPWARDS ARROW BELOW,GRAPHEME JOINER,RIGHT ARROWHEAD ABOVE",
    "LEFT HALF RING ABOVE,FERMATA,X BELOW,LEFT ARROWHEAD BELOW,RIGHT ARROWHEAD BELOW",
    "RIGHT ARROWHEAD AND UP ARROWHEAD BELOW,RIGHT HALF RING ABOVE,DOT ABOVE RIGHT,ASTERISK BELOW",
    "DOUBLE RING BELOW,ZIGZAG ABOVE"]⟩,
  ⟨860, 1, "COMBINING DOUBLE", ["BREVE BELOW,BREVE,MACRON,MACRON BELOW,TILDE,INVERTED BREVE",
    "RIGHTWARDS ARROW BELOW"]⟩,
  ⟨867, 1, "COMBINING LATIN SMALL LETTER", ["A,E,I,O,U,C,D,H,M,R,T,V,X"]⟩,
  ⟨880, 1, "GREEK", ["CAPITAL LETTER HETA,SMALL LETTER HETA,CAPITAL LETTER ARCHAIC SAMPI",
    "SMALL LETTER ARCHAIC SAMPI,NUMERAL SIGN,LOWER NUMERAL SIGN",
    "CAPITAL LETTER PAMPHYLIAN DIGAMMA,SMALL LETTER PAMPHYLIAN DIGAMMA"]⟩,
  ⟨890, 1, "GREEK", ["YPOGEGRAMMENI,SMALL REVERSED LUNATE SIGMA SYMBOL",
    "SMALL DOTTED LUNATE SIGMA SYMBOL,SMALL REVERSED DOTTED LUNATE SIGMA SYMBOL,QUESTION MARK",
    "CAPITAL LETTER YOT"]⟩,
  ⟨900, 1, "GREEK", ["TONOS,DIALYTIKA TONOS,CAPITAL LETTER ALPHA WITH TONOS,ANO TELEIA"]⟩,
  ⟨904, 1, "GREEK CAPITAL LETTER", ["EPSILON WITH TONOS,ETA WITH TONOS,IOTA WITH TONOS"]⟩,
  ⟨908, 1, "GREEK", ["CAPITAL LETTER OMICRON WITH TONOS"]⟩,
  ⟨910, 1, "GREEK", ["CAPITAL LETTER UPSILON WITH TONOS,CAPITAL LETTER OMEGA WITH TONOS",
    "SMALL LETTER IOTA WITH DIALYTIKA AND TONOS"]⟩,
  ⟨913, 1, "GREEK CAPITAL LETTER", ["ALPHA,BETA,GAMMA,DELTA,EPSILON,ZETA,ETA,THETA,IOTA,KAPPA",
    "LAMDA,MU,NU,XI,OMICRON,PI,RHO"]⟩,
  ⟨931, 1, "GREEK CAPITAL LETTER", ["SIGMA,TAU,UPSILON,PHI,CHI,PSI,OMEGA,IOTA WITH DIALYTIKA",
    "UPSILON WITH DIALYTIKA"]⟩,
  ⟨940, 1, "GREEK SMALL LETTER", ["ALPHA WITH TONOS,EPSILON WITH TONOS,ETA WITH TONOS",
    "IOTA WITH TONOS,UPSILON WITH DIALYTIKA AND TONOS,ALPHA,BETA,GAMMA,DELTA,EPSILON,ZETA,ETA",
    "THETA,IOTA,KAPPA,LAMDA,MU,NU,XI,OMICRON,PI,RHO,FINAL SIGMA,SIGMA,TAU,UPSILON,PHI,CHI,PSI",
    "OMEGA,IOTA WITH DIALYTIKA,UPSILON WITH DIALYTIKA,OMICRON WITH TONOS,UPSILON WITH TONOS",
    "OMEGA WITH TONOS"]⟩,
  ⟨975, 1, "GREEK", ["CAPITAL KAI SYMBOL,BETA SYMBOL,THETA SYMBOL,UPSILON WITH HOOK SYMBOL",
    "UPSILON WITH ACUTE AND HOOK SYMBOL,UPSILON WITH DIAERESIS AND HOOK SYMBOL,PHI SYMBOL",
    "PI SYMBOL,KAI SYMBOL,LETTER ARCHAIC KOPPA,SMALL LETTER ARCHAIC KOPPA,LETTER STIGMA",
    "SMALL LETTER STIGMA,LETTER DIGAMMA,SMALL LETTER DIGAMMA,LETTER KOPPA,SMALL LETTER KOPPA",
    "LETTER SAMPI,SMALL LETTER SAMPI"]⟩,
  ⟨994, 2, "COPTIC CAPITAL LETTER", ["SHEI,FEI,KHEI,HORI,GANGIA,SHIMA,DEI"]⟩,
  ⟨995, 2, "COPTIC SMALL LETTER", ["SHEI,FEI,KHEI,HORI,GANGIA,SHIMA,DEI"]⟩,
  ⟨1008, 1, "GREEK", ["KAPPA SYMBOL,RHO SYMBOL,LUNATE SIGMA SYMBOL,LETTER YOT",
    "CAPITAL THETA SYMBOL,LUNATE EPSILON SYMBOL,REVERSED LUNATE EPSILON SYMBOL",
    "CAPITAL LETTER SHO,SMALL LETTER SHO,CAPITAL LUNATE SIGMA SYMBOL,CAPITAL LETTER SAN",
    "SMALL LETTER SAN,RHO WITH STROKE SYMBOL,CAPITAL REVERSED LUNATE SIGMA SYMBOL",
    "CAPITAL DOTTED LUNATE SIGMA SYMBOL,CAPITAL REVERSED DOTTED LUNATE SIGMA SYMBOL"]⟩,
  ⟨1024, 1, "CYRILLIC CAPITAL LETTER", ["IE WITH GRAVE,IO,DJE,GJE,UKRAINIAN IE,DZE",
    "BYELORUSSIAN-UKRAINIAN I,YI,JE,LJE,NJE,TSHE,KJE,I WITH GRAVE,SHORT U,DZHE,A,BE,VE,GHE,DE,IE",
    "ZHE,ZE,I,SHORT I,KA,EL,EM,EN,O,PE,ER,ES,TE,U,EF,HA,TSE,CHE,SHA,SHCHA,HARD SIGN,YERU",
    "SOFT SIGN,E,YU,YA"]⟩,
  ⟨1072, 1, "CYRILLIC SMALL LETTER", ["A,BE,VE,GHE,DE,IE,ZHE,ZE,I,SHORT I,KA,EL,EM,EN,O,PE,ER,ES",
    "TE,U,EF,HA,TSE,CHE,SHA,SHCHA,HARD SIGN,YERU,SOFT SIGN,E,YU,YA,IE WITH GRAVE,IO,DJE,GJE",
    "UKRAINIAN IE,DZE,BYELORUSSIAN-UKRAINIAN I,YI,JE,LJE,NJE,TSHE,KJE,I WITH GRAVE,SHORT U,DZHE"]⟩,
  ⟨1120, 2, "CYRILLIC CAPITAL LETTER", ["OMEGA,YAT,IOTIFIED E,LITTLE YUS,IOTIFIED LITTLE YUS",
    "BIG YUS,IOTIFIED BIG YUS,KSI,PSI,FITA,IZHITSA,IZHITSA WITH DOUBLE GRAVE ACCENT,UK",
    "ROUND OMEGA,OMEGA WITH TITLO,OT,KOPPA"]⟩,
  ⟨1121, 2, "CYRILLIC SMALL LETTER", ["OMEGA,YAT,IOTIFIED E,LITTLE YUS,IOTIFIED LITTLE YUS",
    "BIG YUS,IOTIFIED BIG YUS,KSI,PSI,FITA,IZHITSA,IZHITSA WITH DOUBLE GRAVE ACCENT,UK",
    "ROUND OMEGA,OMEGA WITH TITLO,OT,KOPPA"]⟩,
  ⟨1154, 1, "CYRILLIC", ["THOUSANDS SIGN"]⟩,
  ⟨1155, 1, "COMBINING CYRILLIC", ["TITLO,PALATALIZATION,DASIA PNEUMATA,PSILI PNEUMATA,POKRYTIE",
    "HUNDRED THOUSANDS SIGN,MILLIONS SIGN"]⟩,
  ⟨1162, 2, "CYRILLIC CAPITAL LETTER", ["SHORT I WITH TAIL,SEMISOFT SIGN,ER WITH TICK",
    "GHE WITH UPTURN,GHE WITH STROKE,GHE WITH MIDDLE HOOK,ZHE WITH DESCENDER,ZE WITH DESCENDER",
    "KA WITH DESCENDER,KA WITH VERTICAL STROKE,KA WITH STROKE,BASHKIR KA,EN WITH DESCENDER"]⟩,
  ⟨1163, 2, "CYRILLIC SMALL LETTER", ["SHORT I WITH TAIL,SEMISOFT SIGN,ER WITH TICK",
    "GHE WITH UPTURN,GHE WITH STROKE,GHE WITH MIDDLE HOOK,ZHE WITH DESCENDER,ZE WITH DESCENDER",
    "KA WITH DESCENDER,KA WITH VERTICAL STROKE,KA WITH STROKE,BASHKIR KA,EN WITH DESCENDER"]⟩,
  ⟨1188, 1, "CYRILLIC", ["CAPITAL LIGATURE EN GHE,SMALL LIGATURE EN GHE"]⟩,
  ⟨1190, 2, "CYRILLIC CAPITAL LETTER", ["PE WITH MIDDLE HOOK,ABKHASIAN HA,ES WITH DESCENDER",
    "TE WITH DESCENDER,STRAIGHT U,STRAIGHT U WITH STROKE,HA WITH DESCENDER"]⟩,
  ⟨1191, 2, "CYRILLIC SMALL LETTER", ["PE WITH MIDDLE HOOK,ABKHASIAN HA,ES WITH DESCENDER",
    "TE WITH DESCENDER,STRAIGHT U,STRAIGHT U WITH STROKE,HA WITH DESCENDER"]⟩,
  ⟨1204, 1, "CYRILLIC", ["CAPITAL LIGATURE TE TSE,SMALL LIGATURE TE TSE"]⟩,
  ⟨1206, 2, "CYRILLIC CAPITAL LETTER", ["CHE WITH DESCENDER,CHE WITH VERTICAL STROKE,SHHA",
    "ABKHASIAN CHE,ABKHASIAN CHE WITH DESCENDER"]⟩,
  ⟨1207, 2, "CYRILLIC SMALL LETTER", ["CHE WITH DESCENDER,CHE WITH VERTICAL STROKE,SHHA",
    "ABKHASIAN CHE,ABKHASIAN CHE WITH DESCENDER"]⟩,
  ⟨1216, 1, "CYRILLIC", ["LETTER PALOCHKA"]⟩,
  ⟨1217, 2, "CYRILLIC CAPITAL LETTER", ["ZHE WITH BREVE,KA WITH HOOK,EL WITH TAIL,EN WITH HOOK",
    "EN WITH TAIL,KHAKASSIAN CHE,EM WITH TAIL"]⟩,
  ⟨1218, 2, "CYRILLIC SMALL LETTER", ["ZHE WITH BREVE,KA WITH HOOK,EL WITH TAIL,EN WITH HOOK",
    "EN WITH TAIL,KHAKASSIAN CHE,EM WITH TAIL"]⟩,
  ⟨1231, 1, "CYRILLIC", ["SMALL LETTER PALOCHKA,CAPITAL LETTER A WITH BREVE",
    "SMALL LETTER A WITH BREVE,CAPITAL LETTER A WITH DIAERESIS,SMALL LETTER A WITH DIAERESIS",
    "CAPITAL LIGATURE A IE,SMALL LIGATURE A IE"]⟩,
  ⟨1238, 2, "CYRILLIC CAPITAL LETTER", ["IE WITH BREVE,SCHWA,SCHWA WITH DIAERESIS",
    "ZHE WITH DIAERESIS,ZE WITH DIAERESIS,ABKHASIAN DZE,I WITH MACRON,I WITH DIAERESIS",
    "O WITH DIAERESIS,BARRED O,BARRED O WITH DIAERESIS,E WITH DIAERESIS,U WITH MACRON",
    "U WITH DIAERESIS,U WITH DOUBLE ACUTE,CHE WITH DIAERESIS,GHE WITH DESCENDER",
    "YERU WITH DIAERESIS,GHE WITH STROKE AND HOOK,HA WITH HOOK,HA WITH STROKE,KOMI DE,KOMI DJE",
    "KOMI ZJE,KOMI DZJE,KOMI LJE,KOMI NJE,KOMI SJE,KOMI TJE,REVERSED ZE,EL WITH HOOK,LHA,RHA,YAE",
    "QA,WE,ALEUT KA,EL WITH MIDDLE HOOK,EN WITH MIDDLE HOOK,PE WITH DESCENDER",
    "SHHA WITH DESCENDER,EN WITH LEFT HOOK,DZZHE,DCHE,EL WITH DESCENDER"]⟩,
  ⟨1239, 2, "CYRILLIC SMALL LETTER", ["IE WITH BREVE,SCHWA,SCHWA WITH DIAERESIS",
    "ZHE WITH DIAERESIS,ZE WITH DIAERESIS,ABKHASIAN DZE,I WITH MACRON,I WITH DIAERESIS",
    "O WITH DIAERESIS,BARRED O,BARRED O WITH DIAERESIS,E WITH DIAERESIS,U WITH MACRON",
    "U WITH DIAERESIS,U WITH DOUBLE ACUTE,CHE WITH DIAERESIS,GHE WITH DESCENDER",
    "YERU WITH DIAERESIS,GHE WITH STROKE AND HOOK,HA WITH HOOK,HA WITH STROKE,KOMI DE,KOMI DJE",
    "KOMI ZJE,KOMI DZJE,KOMI LJE,KOMI NJE,KOMI SJE,KOMI TJE,REVERSED ZE,EL WITH HOOK,LHA,RHA,YAE",
    "QA,WE,ALEUT KA,EL WITH MIDDLE HOOK,EN WITH MIDDLE HOOK,PE WITH DESCENDER",
    "SHHA WITH DESCENDER,EN WITH LEFT HOOK,DZZHE,DCHE,EL WITH DESCENDER"]⟩,
  ⟨1329, 1, "ARMENIAN CAPITAL LETTER", ["AYB,BEN,GIM,DA,ECH,ZA,EH,ET,TO,ZHE,INI,LIWN,XEH,CA,KEN",
    "HO,JA,GHAD,CHEH,MEN,YI,NOW,SHA,VO,CHA,PEH,JHEH,RA,SEH,VEW,TIWN,REH,CO,YIWN,PIWR,KEH,OH,FEH"]⟩,
  ⟨1369, 1, "ARMENIAN", ["MODIFIER LETTER LEFT HALF RING,APOSTROPHE,EMPHASIS MARK",
    "EXCLAMATION MARK,COMMA,QUESTION MARK,ABBREVIATION MARK"]⟩,
  ⟨1376, 1, "ARMENIAN SMALL LETTER", ["TURNED AYB,AYB,BEN,GIM,DA,ECH,ZA,EH,ET,TO,ZHE,INI,LIWN",
    "XEH,CA,KEN,HO,JA,GHAD,CHEH,MEN,YI,NOW,SHA,VO,CHA,PEH,JHEH,RA,SEH,VEW,TIWN,REH,CO,YIWN,PIWR",
    "KEH,OH,FEH"]⟩,
  ⟨1415, 1, "ARMENIAN", ["SMALL LIGATURE ECH YIWN,SMALL LETTER YI WITH STROKE,FULL STOP,HYPHEN"]⟩,
  ⟨1421, 1, "", ["RIGHT-FACING ARMENIAN ETERNITY SIGN,LEFT-FACING ARMENIAN ETERNITY SIGN",
    "ARMENIAN DRAM SIGN"]⟩,
  ⟨1456, 1, "HEBREW POINT", ["SHEVA,HATAF SEGOL,HATAF PATAH,HATAF QAMATS,HIRIQ,TSERE,SEGOL,PATAH",
    "QAMATS,HOLAM,HOLAM HASER FOR VAV,QUBUTS,DAGESH OR MAPIQ,METEG"]⟩,
  ⟨1470, 1, "HEBREW", ["PUNCTUATION MAQAF,POINT RAFE,PUNCTUATION PASEQ,POINT SHIN DOT",
    "POINT SIN DOT,PUNCTUATION SOF PASUQ,MARK UPPER DOT,MARK LOWER DOT,PUNCTUATION NUN HAFUKHA",
    "POINT QAMATS QATAN"]⟩,
  ⟨1488, 1, "HEBREW LETTER", ["ALEF,BET,GIMEL,DALET,HE,VAV,ZAYIN,HET,TET,YOD,FINAL KAF,KAF,LAMED",
    "FINAL MEM,MEM,FINAL NUN,NUN,SAMEKH,AYIN,FINAL PE,PE,FINAL TSADI,TSADI,QOF,RESH,SHIN,TAV"]⟩,
  ⟨1519, 1, "HEBREW", ["YOD TRIANGLE"]⟩,
  ⟨1520, 1, "HEBREW LIGATURE YIDDISH", ["DOUBLE VAV,VAV YOD,DOUBLE YOD"]⟩,
  ⟨1523, 1, "HEBREW PUNCTUATION", ["GERESH,GERSHAYIM"]⟩,
  ⟨1548, 1, "ARABIC", ["COMMA"]⟩,
  ⟨1563, 1, "ARABIC", ["SEMICOLON"]⟩,
  ⟨1567, 1, "ARABIC", ["QUESTION MARK"]⟩,
  ⟨1568, 1, "ARABIC LETTER", ["KASHMIRI YEH,HAMZA,ALEF WITH MADDA ABOVE,ALEF WITH HAMZA ABOVE",
    "WAW WITH HAMZA ABOVE,ALEF WITH HAMZA BELOW,YEH WITH HAMZA ABOVE,ALEF,BEH,TEH MARBUTA,TEH",
    "THEH,JEEM,HAH,KHAH,DAL,THAL,REH,ZAIN,SEEN,SHEEN,SAD,DAD,TAH,ZAH,AIN,GHAIN",
    "KEHEH WITH TWO DOTS ABOVE,KEHEH WITH THREE DOTS BELOW"]⟩,
  ⟨1597, 1, "ARABIC LETTER FARSI YEH WITH", ["INVERTED V,TWO DOTS ABOVE,THREE DOTS ABOVE"]⟩,
  ⟨1600, 1, "ARABIC", ["TATWEEL"]⟩,
  ⟨1601, 1, "ARABIC LETTER", ["FEH,QAF,KAF,LAM,MEEM,NOON,HEH,WAW,ALEF MAKSURA,YEH"]⟩,
  ⟨1611, 1, "ARABIC", ["FATHATAN,DAMMATAN,KASRATAN,FATHA,DAMMA,KASRA,SHADDA,SUKUN,MADDAH ABOVE",
    "HAMZA ABOVE,HAMZA BELOW,SUBSCRIPT ALEF,INVERTED DAMMA,MARK NOON GHUNNA,ZWARAKAY",
    "VOWEL SIGN SMALL V ABOVE,VOWEL SIGN INVERTED SMALL V ABOVE,VOWEL SIGN DOT BELOW",
    "REVERSED DAMMA,FATHA WITH TWO DOTS,WAVY HAMZA BELOW"]⟩,
  ⟨1632, 1, "ARABIC-INDIC DIGIT", ["ZERO,ONE,TWO,THREE,FOUR,FIVE,SIX,SEVEN,EIGHT,NINE"]⟩,
  ⟨1642, 1, "ARABIC", ["PERCENT SIGN,DECIMAL SEPARATOR,THOUSANDS SEPARATOR,FIVE POINTED STAR",
    "LETTER DOTLESS BEH,LETTER DOTLESS QAF"]⟩,
  ⟨1776, 1, "EXTENDED ARABIC-INDIC DIGIT", ["ZERO,ONE,TWO,THREE,FOUR,FIVE,SIX,SEVEN,EIGHT,NINE"]⟩,
  ⟨2308, 1, "DEVANAGARI LETTER", ["SHORT A,A,AA,I,II,U,UU,VOCALIC R,VOCALIC L,CANDRA E,SHORT E,E",
    "AI,CANDRA O,SHORT O,O,AU,KA,KHA,GA,GHA,NGA,CA,CHA,JA,JHA,NYA,TTA,TTHA,DDA,DDHA,NNA,TA,THA",
    "DA,DHA,NA,NNNA,PA,PHA,BA,BHA,MA,YA,RA,RRA,LA,LLA,LLLA,VA,SHA,SSA,SA,HA"]⟩,
  ⟨2362, 1, "DEVANAGARI", ["VOWEL SIGN OE,VOWEL SIGN OOE,SIGN NUKTA,SIGN AVAGRAHA"]⟩,
  ⟨2366, 1, "DEVANAGARI VOWEL SIGN", ["AA,I,II,U,UU,VOCALIC R,VOCALIC RR,CANDRA E,SHORT E,E,AI",
    "CANDRA O,SHORT O,O,AU"]⟩,
  ⟨2381, 1, "DEVANAGARI", ["SIGN VIRAMA"]⟩,
  ⟨2406, 1, "DEVANAGARI DIGIT", ["ZERO,ONE,TWO,THREE,FOUR,FIVE,SIX,SEVEN,EIGHT,NINE"]⟩,
  ⟨3585, 1, "THAI CHARACTER", ["KO KAI,KHO KHAI,KHO KHUAT,KHO KHWAI,KHO KHON,KHO RAKHANG,NGO NGU",
    "CHO CHAN,CHO CHING,CHO CHANG,SO SO,CHO CHOE,YO YING,DO CHADA,TO PATAK,THO THAN",
    "THO NANGMONTHO,THO PHUTHAO,NO NEN,DO DEK,TO TAO,THO THUNG,THO THAHAN,THO THONG,NO NU",
    "BO BAIMAI,PO PLA,PHO PHUNG,FO FA,PHO PHAN,FO FAN,PHO SAMPHAO,MO MA,YO YAK,RO RUA,RU,LO LING",
    "LU,WO WAEN,SO SALA,SO RUSI,SO SUA,HO HIP,LO CHULA,O ANG,HO NOKHUK,PAIYANNOI,SARA A",
    "MAI HAN-AKAT,SARA AA,SARA AM,SARA I,SARA II,SARA UE,SARA UEE,SARA U,SARA UU,PHINTHU"]⟩,
  ⟨3647, 1, "THAI", ["CURRENCY SYMBOL BAHT"]⟩,
  ⟨3648, 1, "THAI CHARACTER", ["SARA E,SARA AE,SARA O,SARA AI MAIMUAN,SARA AI MAIMALAI",
    "LAKKHANGYAO,MAIYAMOK,MAITAIKHU,MAI EK,MAI THO,MAI TRI,MAI CHATTAWA,THANTHAKHAT,NIKHAHIT",
    "YAMAKKAN,FONGMAN"]⟩,
  ⟨3664, 1, "THAI DIGIT", ["ZERO,ONE,TWO,THREE,FOUR,FIVE,SIX,SEVEN,EIGHT,NINE"]⟩,
  ⟨3674, 1, "THAI CHARACTER", ["ANGKHANKHU,KHOMUT"]⟩,
  ⟨4256, 1, "GEORGIAN CAPITAL LETTER", ["AN,BAN,GAN,DON,EN,VIN,ZEN,TAN,IN,KAN,LAS,MAN,NAR,ON,PAR",
    "ZHAR,RAE,SAN,TAR,UN,PHAR,KHAR,GHAN,QAR,SHIN,CHIN,CAN,JIL,CIL,CHAR,XAN,JHAN,HAE,HE,HIE,WE",
    "HAR,HOE"]⟩,
  ⟨4295, 1, "GEORGIAN", ["CAPITAL LETTER YN"]⟩,
  ⟨4301, 1, "GEORGIAN", ["CAPITAL LETTER AEN"]⟩,
  ⟨4304, 1, "GEORGIAN LETTER", ["AN,BAN,GAN,DON,EN,VIN,ZEN,TAN,IN,KAN,LAS,MAN,NAR,ON,PAR,ZHAR",
    "RAE,SAN,TAR,UN,PHAR,KHAR,GHAN,QAR,SHIN,CHIN,CAN,JIL,CIL,CHAR,XAN,JHAN,HAE,HE,HIE,WE,HAR,HOE",
    "FI,YN,ELIFI,TURNED GAN,AIN"]⟩,
  ⟨4347, 1, "", ["GEORGIAN PARAGRAPH SEPARATOR,MODIFIER LETTER GEORGIAN NAR"]⟩,
  ⟨4349, 1, "GEORGIAN LETTER", ["AEN,HARD SIGN,LABIAL SIGN"]⟩,
  ⟨7680, 2, "LATIN CAPITAL LETTER", ["A WITH RING BELOW,B WITH DOT ABOVE,B WITH DOT BELOW",
    "B WITH LINE BELOW,C WITH CEDILLA AND ACUTE,D WITH DOT ABOVE,D WITH DOT BELOW",
    "D WITH LINE BELOW,D WITH CEDILLA,D WITH CIRCUMFLEX BELOW,E WITH MACRON AND GRAVE",
    "E WITH MACRON AND ACUTE,E WITH CIRCUMFLEX BELOW,E WITH TILDE BELOW,E WITH CEDILLA AND BREVE",
    "F WITH DOT ABOVE,G WITH MACRON,H WITH DOT ABOVE,H WITH DOT BELOW,H WITH DIAERESIS",
    "H WITH CEDILLA,H WITH BREVE BELOW,I WITH TILDE BELOW,I WITH DIAERESIS AND ACUTE",
    "K WITH ACUTE,K WITH DOT BELOW,K WITH LINE BELOW,L WITH DOT BELOW",
    "L WITH DOT BELOW AND MACRON,L WITH LINE BELOW,L WITH CIRCUMFLEX BELOW,M WITH ACUTE",
    "M WITH DOT ABOVE,M WITH DOT BELOW,N WITH DOT ABOVE,N WITH DOT BELOW,N WITH LINE BELOW",
    "N WITH CIRCUMFLEX BELOW,O WITH TILDE AND ACUTE,O WITH TILDE AND DIAERESIS",
    "O WITH MACRON AND GRAVE,O WITH MACRON AND ACUTE,P WITH ACUTE,P WITH DOT ABOVE",
    "R WITH DOT ABOVE,R WITH DOT BELOW,R WITH DOT BELOW AND MACRON,R WITH LINE BELOW",
    "S WITH DOT ABOVE,S WITH DOT BELOW,S WITH ACUTE AND DOT ABOVE,S WITH CARON AND DOT ABOVE",
    "S WITH DOT BELOW AND DOT ABOVE,T WITH DOT ABOVE,T WITH DOT BELOW,T WITH LINE BELOW",
    "T WITH CIRCUMFLEX BELOW,U WITH DIAERESIS BELOW,U WITH TILDE BELOW,U WITH CIRCUMFLEX BELOW",
    "U WITH TILDE AND ACUTE,U WITH MACRON AND DIAERESIS,V WITH TILDE,V WITH DOT BELOW",
    "W WITH GRAVE,W WITH ACUTE,W WITH DIAERESIS,W WITH DOT ABOVE,W WITH DOT BELOW",
    "X WITH DOT ABOVE,X WITH DIAERESIS,Y WITH DOT ABOVE,Z WITH CIRCUMFLEX,Z WITH DOT BELOW",
    "Z WITH LINE BELOW"]⟩,
  ⟨7681, 2, "LATIN SMALL LETTER", ["A WITH RING BELOW,B WITH DOT ABOVE,B WITH DOT BELOW",
    "B WITH LINE BELOW,C WITH CEDILLA AND ACUTE,D WITH DOT ABOVE,D WITH DOT BELOW",
    "D WITH LINE BELOW,D WITH CEDILLA,D WITH CIRCUMFLEX BELOW,E WITH MACRON AND GRAVE",
    "E WITH MACRON AND ACUTE,E WITH CIRCUMFLEX BELOW,E WITH TILDE BELOW,E WITH CEDILLA AND BREVE",
    "F WITH DOT ABOVE,G WITH MACRON,H WITH DOT ABOVE,H WITH DOT BELOW,H WITH DIAERESIS",
    "H WITH CEDILLA,H WITH BREVE BELOW,I WITH TILDE BELOW,I WITH DIAERESIS AND ACUTE",
    "K WITH ACUTE,K WITH DOT BELOW,K WITH LINE BELOW,L WITH DOT BELOW",
    "L WITH DOT BELOW AND MACRON,L WITH LINE BELOW,L WITH CIRCUMFLEX BELOW,M WITH ACUTE",
    "M WITH DOT ABOVE,M WITH DOT BELOW,N WITH DOT ABOVE,N WITH DOT BELOW,N WITH LINE BELOW",
    "N WITH CIRCUMFLEX BELOW,O WITH TILDE AND ACUTE,O WITH TILDE AND DIAERESIS",
    "O WITH MACRON AND GRAVE,O WITH MACRON AND ACUTE,P WITH ACUTE,P WITH DOT ABOVE",
    "R WITH DOT ABOVE,R WITH DOT BELOW,R WITH DOT BELOW AND MACRON,R WITH LINE BELOW",
    "S WITH DOT ABOVE,S WITH DOT BELOW,S WITH ACUTE AND DOT ABOVE,S WITH CARON AND DOT ABOVE",
    "S WITH DOT BELOW AND DOT ABOVE,T WITH DOT ABOVE,T WITH DOT BELOW,T WITH LINE BELOW",
    "T WITH CIRCUMFLEX BELOW,U WITH DIAERESIS BELOW,U WITH TILDE BELOW,U WITH CIRCUMFLEX BELOW",
    "U WITH TILDE AND ACUTE,U WITH MACRON AND DIAERESIS,V WITH TILDE,V WITH DOT BELOW",
    "W WITH GRAVE,W WITH ACUTE,W WITH DIAERESIS,W WITH DOT ABOVE,W WITH DOT BELOW",
    "X WITH DOT ABOVE,X WITH DIAERESIS,Y WITH DOT ABOVE,Z WITH CIRCUMFLEX,Z WITH DOT BELOW",
    "Z WITH LINE BELOW"]⟩,
  ⟨7830, 1, "LATIN SMALL LETTER", ["H WITH LINE BELOW,T WITH DIAERESIS,W WITH RING ABOVE",
    "Y WITH RING ABOVE,A WITH RIGHT HALF RING,LONG S WITH DOT ABOVE,LONG S WITH DIAGONAL STROKE",
    "LONG S WITH HIGH STROKE"]⟩,
  ⟨7838, 1, "LATIN", ["CAPITAL LETTER SHARP S,SMALL LETTER DELTA"]⟩,
  ⟨7840, 2, "LATIN CAPITAL LETTER", ["A WITH DOT BELOW,A WITH HOOK ABOVE",
    "A WITH CIRCUMFLEX AND ACUTE,A WITH CIRCUMFLEX AND GRAVE,A WITH CIRCUMFLEX AND HOOK ABOVE",
    "A WITH CIRCUMFLEX AND TILDE,A WITH CIRCUMFLEX AND DOT BELOW,A WITH BREVE AND ACUTE",
    "A WITH BREVE AND GRAVE,A WITH BREVE AND HOOK ABOVE,A WITH BREVE AND TILDE",
    "A WITH BREVE AND DOT BELOW,E WITH DOT BELOW,E WITH HOOK ABOVE,E WITH TILDE",
    "E WITH CIRCUMFLEX AND ACUTE,E WITH CIRCUMFLEX AND GRAVE,E WITH CIRCUMFLEX AND HOOK ABOVE",
    "E WITH CIRCUMFLEX AND TILDE,E WITH CIRCUMFLEX AND DOT BELOW,I WITH HOOK ABOVE",
    "I WITH DOT BELOW,O WITH DOT BELOW,O WITH HOOK ABOVE,O WITH CIRCUMFLEX AND ACUTE",
    "O WITH CIRCUMFLEX AND GRAVE,O WITH CIRCUMFLEX AND HOOK ABOVE,O WITH CIRCUMFLEX AND TILDE",
    "O WITH CIRCUMFLEX AND DOT BELOW,O WITH HORN AND ACUTE,O WITH HORN AND GRAVE",
    "O WITH HORN AND HOOK ABOVE,O WITH HORN AND TILDE,O WITH HORN AND DOT BELOW,U WITH DOT BELOW",
    "U WITH HOOK ABOVE,U WITH HORN AND ACUTE,U WITH HORN AND GRAVE,U WITH HORN AND HOOK ABOVE",
    "U WITH HORN AND TILDE,U WITH HORN AND DOT BELOW,Y WITH GRAVE,Y WITH DOT BELOW",
    "Y WITH HOOK ABOVE,Y WITH TILDE,MIDDLE-WELSH LL,MIDDLE-WELSH V,Y WITH LOOP"]⟩,
  ⟨7841, 2, "LATIN SMALL LETTER", ["A WITH DOT BELOW,A WITH HOOK ABOVE",
    "A WITH CIRCUMFLEX AND ACUTE,A WITH CIRCUMFLEX AND GRAVE,A WITH CIRCUMFLEX AND HOOK ABOVE",
    "A WITH CIRCUMFLEX AND TILDE,A WITH CIRCUMFLEX AND DOT BELOW,A WITH BREVE AND ACUTE",
    "A WITH BREVE AND GRAVE,A WITH BREVE AND HOOK ABOVE,A WITH BREVE AND TILDE",
    "A WITH BREVE AND DOT BELOW,E WITH DOT BELOW,E WITH HOOK ABOVE,E WITH TILDE",
    "E WITH CIRCUMFLEX AND ACUTE,E WITH CIRCUMFLEX AND GRAVE,E WITH CIRCUMFLEX AND HOOK ABOVE",
    "E WITH CIRCUMFLEX AND TILDE,E WITH CIRCUMFLEX AND DOT BELOW,I WITH HOOK ABOVE",
    "I WITH DOT BELOW,O WITH DOT BELOW,O WITH HOOK ABOVE,O WITH CIRCUMFLEX AND ACUTE",
    "O WITH CIRCUMFLEX AND GRAVE,O WITH CIRCUMFLEX AND HOOK ABOVE,O WITH CIRCUMFLEX AND TILDE",
    "O WITH CIRCUMFLEX AND DOT BELOW,O WITH HORN AND ACUTE,O WITH HORN AND GRAVE",
    "O WITH HORN AND HOOK ABOVE,O WITH HORN AND TILDE,O WITH HORN AND DOT BELOW,U WITH DOT BELOW",
    "U WITH HOOK ABOVE,U WITH HORN AND ACUTE,U WITH HORN AND GRAVE,U WITH HORN AND HOOK ABOVE",
    "U WITH HORN AND TILDE,U WITH HORN AND DOT BELOW,Y WITH GRAVE,Y WITH DOT BELOW",
    "Y WITH HOOK ABOVE,Y WITH TILDE,MIDDLE-WELSH LL,MIDDLE-WELSH V,Y WITH LOOP"]⟩,
  ⟨7936, 1, "GREEK SMALL LETTER ALPHA WITH", ["PSILI,DASIA,PSILI AND VARIA,DASIA AND VARIA",
    "PSILI AND OXIA,DASIA AND OXIA,PSILI AND PERISPOMENI,DASIA AND PERISPOMENI"]⟩,
  ⟨7944, 1, "GREEK CAPITAL LETTER ALPHA WITH", ["PSILI,DASIA,PSILI AND VARIA,DASIA AND VARIA",
    "PSILI AND OXIA,DASIA AND OXIA,PSILI AND PERISPOMENI,DASIA AND PERISPOMENI"]⟩,
  ⟨7952, 1, "GREEK SMALL LETTER EPSILON WITH", ["PSILI,DASIA,PSILI AND VARIA,DASIA AND VARIA",
    "PSILI AND OXIA,DASIA AND OXIA"]⟩,
  ⟨7960, 1, "GREEK CAPITAL LETTER EPSILON WITH", ["PSILI,DASIA,PSILI AND VARIA,DASIA AND VARIA",
    "PSILI AND OXIA,DASIA AND OXIA"]⟩,
  ⟨7968, 1, "GREEK SMALL LETTER ETA WITH", ["PSILI,DASIA,PSILI AND VARIA,DASIA AND VARIA",
    "PSILI AND OXIA,DASIA AND OXIA,PSILI AND PERISPOMENI,DASIA AND PERISPOMENI"]⟩,
  ⟨7976, 1, "GREEK CAPITAL LETTER ETA WITH", ["PSILI,DASIA,PSILI AND VARIA,DASIA AND VARIA",
    "PSILI AND OXIA,DASIA AND OXIA,PSILI AND PERISPOMENI,DASIA AND PERISPOMENI"]⟩,
  ⟨7984, 1, "GREEK SMALL LETTER IOTA WITH", ["PSILI,DASIA,PSILI AND VARIA,DASIA AND VARIA",
    "PSILI AND OXIA,DASIA AND OXIA,PSILI AND PERISPOMENI,DASIA AND PERISPOMENI"]⟩,
  ⟨7992, 1, "GREEK CAPITAL LETTER IOTA WITH", ["PSILI,DASIA,PSILI AND VARIA,DASIA AND VARIA",
    "PSILI AND OXIA,DASIA AND OXIA,PSILI AND PERISPOMENI,DASIA AND PERISPOMENI"]⟩,
  ⟨8000, 1, "GREEK SMALL LETTER OMICRON WITH", ["PSILI,DASIA,PSILI AND VARIA,DASIA AND VARIA",
    "PSILI AND OXIA,DASIA AND OXIA"]⟩,
  ⟨8008, 1, "GREEK CAPITAL LETTER OMICRON WITH", ["PSILI,DASIA,PSILI AND VARIA,DASIA AND VARIA",
    "PSILI AND OXIA,DASIA AND OXIA"]⟩,
  ⟨8016, 1, "GREEK SMALL LETTER UPSILON WITH", ["PSILI,DASIA,PSILI AND VARIA,DASIA AND VARIA",
    "PSILI AND OXIA,DASIA AND OXIA,PSILI AND PERISPOMENI,DASIA AND PERISPOMENI"]⟩,
  ⟨8025, 1, "GREEK", ["CAPITAL LETTER UPSILON WITH DASIA"]⟩,
  ⟨8027, 1, "GREEK", ["CAPITAL LETTER UPSILON WITH DASIA AND VARIA"]⟩,
  ⟨8029, 1, "GREEK", ["CAPITAL LETTER UPSILON WITH DASIA AND OXIA"]⟩,
  ⟨8031, 1, "GREEK", ["CAPITAL LETTER UPSILON WITH DASIA AND PERISPOMENI"]⟩,
  ⟨8032, 1, "GREEK SMALL LETTER OMEGA WITH", ["PSILI,DASIA,PSILI AND VARIA,DASIA AND VARIA",
    "PSILI AND OXIA,DASIA AND OXIA,PSILI AND PERISPOMENI,DASIA AND PERISPOMENI"]⟩,
  ⟨8040, 1, "GREEK CAPITAL LETTER OMEGA WITH", ["PSILI,DASIA,PSILI AND VARIA,DASIA AND VARIA",
    "PSILI AND OXIA,DASIA AND OXIA,PSILI AND PERISPOMENI,DASIA AND PERISPOMENI"]⟩,
  ⟨8048, 1, "GREEK SMALL LETTER", ["ALPHA WITH VARIA,ALPHA WITH OXIA,EPSILON WITH VARIA",
    "EPSILON WITH OXIA,ETA WITH VARIA,ETA WITH OXIA,IOTA WITH VARIA,IOTA WITH OXIA",
    "OMICRON WITH VARIA,OMICRON WITH OXIA,UPSILON WITH VARIA,UPSILON WITH OXIA,OMEGA WITH VARIA",
    "OMEGA WITH OXIA"]⟩,
  ⟨8064, 1, "GREEK SMALL LETTER ALPHA WITH", ["PSILI AND YPOGEGRAMMENI,DASIA AND YPOGEGRAMMENI",
    "PSILI AND VARIA AND YPOGEGRAMMENI,DASIA AND VARIA AND YPOGEGRAMMENI",
    "PSILI AND OXIA AND YPOGEGRAMMENI,DASIA AND OXIA AND YPOGEGRAMMENI",
    "PSILI AND PERISPOMENI AND YPOGEGRAMMENI,DASIA AND PERISPOMENI AND YPOGEGRAMMENI"]⟩,
  ⟨8072, 1, "GREEK CAPITAL LETTER ALPHA WITH", ["PSILI AND PROSGEGRAMMENI",
    "DASIA AND PROSGEGRAMMENI,PSILI AND VARIA AND PROSGEGRAMMENI",
    "DASIA AND VARIA AND PROSGEGRAMMENI,PSILI AND OXIA AND PROSGEGRAMMENI",
    "DASIA AND OXIA AND PROSGEGRAMMENI,PSILI AND PERISPOMENI AND PROSGEGRAMMENI",
    "DASIA AND PERISPOMENI AND PROSGEGRAMMENI"]⟩,
  ⟨8080, 1, "GREEK SMALL LETTER ETA WITH", ["PSILI AND YPOGEGRAMMENI,DASIA AND YPOGEGRAMMENI",
    "PSILI AND VARIA AND YPOGEGRAMMENI,DASIA AND VARIA AND YPOGEGRAMMENI",
    "PSILI AND OXIA AND YPOGEGRAMMENI,DASIA AND OXIA AND YPOGEGRAMMENI",
    "PSILI AND PERISPOMENI AND YPOGEGRAMMENI,DASIA AND PERISPOMENI AND YPOGEGRAMMENI"]⟩,
  ⟨8088, 1, "GREEK CAPITAL LETTER ETA WITH", ["PSILI AND PROSGEGRAMMENI,DASIA AND PROSGEGRAMMENI",
    "PSILI AND VARIA AND PROSGEGRAMMENI,DASIA AND VARIA AND PROSGEGRAMMENI",
    "PSILI AND OXIA AND PROSGEGRAMMENI,DASIA AND OXIA AND PROSGEGRAMMENI",
    "PSILI AND PERISPOMENI AND PROSGEGRAMMENI,DASIA AND PERISPOMENI AND PROSGEGRAMMENI"]⟩,
  ⟨8096, 1, "GREEK SMALL LETTER OMEGA WITH", ["PSILI AND YPOGEGRAMMENI,DASIA AND YPOGEGRAMMENI",
    "PSILI AND VARIA AND YPOGEGRAMMENI,DASIA AND VARIA AND YPOGEGRAMMENI",
    "PSILI AND OXIA AND YPOGEGRAMMENI,DASIA AND OXIA AND YPOGEGRAMMENI",
    "PSILI AND PERISPOMENI AND YPOGEGRAMMENI,DASIA AND PERISPOMENI AND YPOGEGRAMMENI"]⟩,
  ⟨8104, 1, "GREEK CAPITAL LETTER OMEGA WITH", ["PSILI AND PROSGEGRAMMENI",
    "DASIA AND PROSGEGRAMMENI,PSILI AND VARIA AND PROSGEGRAMMENI",
    "DASIA AND VARIA AND PROSGEGRAMMENI,PSILI AND OXIA AND PROSGEGRAMMENI",
    "DASIA AND OXIA AND PROSGEGRAMMENI,PSILI AND PERISPOMENI AND PROSGEGRAMMENI",
    "DASIA AND PERISPOMENI AND PROSGEGRAMMENI"]⟩,
  ⟨8112, 1, "GREEK SMALL LETTER ALPHA WITH", ["VRACHY,MACRON,VARIA AND YPOGEGRAMMENI",
    "YPOGEGRAMMENI,OXIA AND YPOGEGRAMMENI"]⟩,
  ⟨8118, 1, "GREEK SMALL LETTER ALPHA WITH", ["PERISPOMENI,PERISPOMENI AND YPOGEGRAMMENI"]⟩,
  ⟨8120, 1, "GREEK CAPITAL LETTER ALPHA WITH", ["VRACHY,MACRON,VARIA,OXIA,PROSGEGRAMMENI"]⟩,
  ⟨8125, 1, "GREEK", ["KORONIS,PROSGEGRAMMENI,PSILI,PERISPOMENI,DIALYTIKA AND PERISPOMENI"]⟩,
  ⟨8130, 1, "GREEK SMALL LETTER ETA WITH", ["VARIA AND YPOGEGRAMMENI,YPOGEGRAMMENI",
    "OXIA AND YPOGEGRAMMENI"]⟩,
  ⟨8134, 1, "GREEK SMALL LETTER ETA WITH", ["PERISPOMENI,PERISPOMENI AND YPOGEGRAMMENI"]⟩,
  ⟨8136, 1, "GREEK CAPITAL LETTER", ["EPSILON WITH VARIA,EPSILON WITH OXIA,ETA WITH VARIA",
    "ETA WITH OXIA,ETA WITH PROSGEGRAMMENI"]⟩,
  ⟨8141, 1, "GREEK PSILI AND", ["VARIA,OXIA,PERISPOMENI"]⟩,
  ⟨8144, 1, "GREEK SMALL LETTER IOTA WITH", ["VRACHY,MACRON,DIALYTIKA AND VARIA",
    "DIALYTIKA AND OXIA"]⟩,
  ⟨8150, 1, "GREEK SMALL LETTER IOTA WITH", ["PERISPOMENI,DIALYTIKA AND PERISPOMENI"]⟩,
  ⟨8152, 1, "GREEK CAPITAL LETTER IOTA WITH", ["VRACHY,MACRON,VARIA,OXIA"]⟩,
  ⟨8157, 1, "GREEK DASIA AND", ["VARIA,OXIA,PERISPOMENI"]⟩,
  ⟨8160, 1, "GREEK SMALL LETTER UPSILON WITH", ["VRACHY,MACRON,DIALYTIKA AND VARIA",
    "DIALYTIKA AND OXIA"]⟩,
  ⟨8164, 1, "GREEK SMALL LETTER", ["RHO WITH PSILI,RHO WITH DASIA,UPSILON WITH PERISPOMENI",
    "UPSILON WITH DIALYTIKA AND PERISPOMENI"]⟩,
  ⟨8168, 1, "GREEK CAPITAL LETTER UPSILON WITH", ["VRACHY,MACRON,VARIA,OXIA"]⟩,
  ⟨8172, 1, "GREEK", ["CAPITAL LETTER RHO WITH DASIA,DIALYTIKA AND VARIA,DIALYTIKA AND OXIA",
    "VARIA"]⟩,
  ⟨8178, 1, "GREEK SMALL LETTER OMEGA WITH", ["VARIA AND YPOGEGRAMMENI,YPOGEGRAMMENI",
    "OXIA AND YPOGEGRAMMENI"]⟩,
  ⟨8182, 1, "GREEK SMALL LETTER OMEGA WITH", ["PERISPOMENI,PERISPOMENI AND YPOGEGRAMMENI"]⟩,
  ⟨8184, 1, "GREEK CAPITAL LETTER OMICRON WITH", ["VARIA,OXIA"]⟩,
  ⟨8186, 1, "GREEK CAPITAL LETTER OMEGA WITH", ["VARIA,OXIA,PROSGEGRAMMENI"]⟩,
  ⟨8189, 1, "GREEK", ["OXIA,DASIA"]⟩,
  ⟨8192, 1, "", ["EN QUAD,EM QUAD,EN SPACE,EM SPACE,THREE-PER-EM SPACE,FOUR-PER-EM SPACE",
    "SIX-PER-EM SPACE,FIGURE SPACE,PUNCTUATION SPACE,THIN SPACE,HAIR SPACE,ZERO WIDTH SPACE",
    "ZERO WIDTH NON-JOINER,ZERO WIDTH JOINER,LEFT-TO-RIGHT MARK,RIGHT-TO-LEFT MARK,HYPHEN",
    "NON-BREAKING HYPHEN,FIGURE DASH,EN DASH,EM DASH,HORIZONTAL BAR,DOUBLE VERTICAL LINE",
    "DOUBLE LOW LINE,LEFT SINGLE QUOTATION MARK,RIGHT SINGLE QUOTATION MARK",
    "SINGLE LOW-9 QUOTATION MARK,SINGLE HIGH-REVERSED-9 QUOTATION MARK",
    "LEFT DOUBLE QUOTATION MARK,RIGHT DOUBLE QUOTATION MARK,DOUBLE LOW-9 QUOTATION MARK",
    "DOUBLE HIGH-REVERSED-9 QUOTATION MARK,DAGGER,DOUBLE DAGGER,BULLET,TRIANGULAR BULLET",
    "ONE DOT LEADER,TWO DOT LEADER,HORIZONTAL ELLIPSIS,HYPHENATION POINT,LINE SEPARATOR",
    "PARAGRAPH SEPARATOR,LEFT-TO-RIGHT EMBEDDING,RIGHT-TO-LEFT EMBEDDING",
    "POP DIRECTIONAL FORMATTING,LEFT-TO-RIGHT OVERRIDE,RIGHT-TO-LEFT OVERRIDE",
    "NARROW NO-BREAK SPACE,PER MILLE SIGN,PER TEN THOUSAND SIGN,PRIME,DOUBLE PRIME,TRIPLE PRIME",
    "REVERSED PRIME,REVERSED DOUBLE PRIME,REVERSED TRIPLE PRIME,CARET",
    "SINGLE LEFT-POINTING ANGLE QUOTATION MARK,SINGLE RIGHT-POINTING ANGLE QUOTATION MARK",
    "REFERENCE MARK,DOUBLE EXCLAMATION MARK,INTERROBANG,OVERLINE,UNDERTIE,CHARACTER TIE",
    "CARET INSERTION POINT,ASTERISM,HYPHEN BULLET,FRACTION SLASH,LEFT SQUARE BRACKET WITH QUILL",
    "RIGHT SQUARE BRACKET WITH QUILL,DOUBLE QUESTION MARK,QUESTION EXCLAMATION MARK",
    "EXCLAMATION QUESTION MARK,TIRONIAN SIGN ET,REVERSED PILCROW SIGN,BLACK LEFTWARDS BULLET",
    "BLACK RIGHTWARDS BULLET,LOW ASTERISK,REVERSED SEMICOLON,CLOSE UP",
    "TWO ASTERISKS ALIGNED VERTICALLY,COMMERCIAL MINUS SIGN,SWUNG DASH,INVERTED UNDERTIE",
    "FLOWER PUNCTUATION MARK,THREE DOT PUNCTUATION,QUADRUPLE PRIME,FOUR DOT PUNCTUATION",
    "FIVE DOT PUNCTUATION,TWO DOT PUNCTUATION,FOUR DOT MARK,DOTTED CROSS,TRICOLON",
    "VERTICAL FOUR DOTS,MEDIUM MATHEMATICAL SPACE,WORD JOINER,FUNCTION APPLICATION"]⟩,
  ⟨8290, 1, "INVISIBLE", ["TIMES,SEPARATOR,PLUS"]⟩,
  ⟨8294, 1, "", ["LEFT-TO-RIGHT ISOLATE,RIGHT-TO-LEFT ISOLATE,FIRST STRONG ISOLATE",
    "POP DIRECTIONAL ISOLATE,INHIBIT SYMMETRIC SWAPPING,ACTIVATE SYMMETRIC SWAPPING",
    "INHIBIT ARABIC FORM SHAPING,ACTIVATE ARABIC FORM SHAPING,NATIONAL DIGIT SHAPES",
    "NOMINAL DIGIT SHAPES,SUPERSCRIPT ZERO,SUPERSCRIPT LATIN SMALL LETTER I"]⟩,
  ⟨8308, 1, "SUPERSCRIPT", ["FOUR,FIVE,SIX,SEVEN,EIGHT,NINE,PLUS SIGN,MINUS,EQUALS SIGN",
    "LEFT PARENTHESIS,RIGHT PARENTHESIS,LATIN SMALL LETTER N"]⟩,
  ⟨8320, 1, "SUBSCRIPT", ["ZERO,ONE,TWO,THREE,FOUR,FIVE,SIX,SEVEN,EIGHT,NINE,PLUS SIGN,MINUS",
    "EQUALS SIGN,LEFT PARENTHESIS,RIGHT PARENTHESIS"]⟩,
  ⟨8336, 1, "LATIN SUBSCRIPT SMALL LETTER", ["A,E,O,X,SCHWA,H,K,L,M,N,P,S,T"]⟩,
  ⟨8352, 1, "", ["EURO-CURRENCY SIGN,COLON SIGN,CRUZEIRO SIGN,FRENCH FRANC SIGN,LIRA SIGN",
    "MILL SIGN,NAIRA SIGN,PESETA SIGN,RUPEE SIGN,WON SIGN,NEW SHEQEL SIGN,DONG SIGN,EURO SIGN",
    "KIP SIGN,TUGRIK SIGN,DRACHMA SIGN,GERMAN PENNY SIGN,PESO SIGN,GUARANI SIGN,AUSTRAL SIGN",
    "HRYVNIA SIGN,CEDI SIGN,LIVRE TOURNOIS SIGN,SPESMILO SIGN,TENGE SIGN,INDIAN RUPEE SIGN",
    "TURKISH LIRA SIGN,NORDIC MARK SIGN,MANAT SIGN,RUBLE SIGN,LARI SIGN,BITCOIN SIGN,SOM SIGN"]⟩,
  ⟨8400, 1, "COMBINING", ["LEFT HARPOON ABOVE,RIGHT HARPOON ABOVE,LONG VERTICAL LINE OVERLAY",
    "SHORT VERTICAL LINE OVERLAY,ANTICLOCKWISE ARROW ABOVE,CLOCKWISE ARROW ABOVE",
    "LEFT ARROW ABOVE,RIGHT ARROW ABOVE,RING OVERLAY,CLOCKWISE RING OVERLAY",
    "ANTICLOCKWISE RING OVERLAY,THREE DOTS ABOVE,FOUR DOTS ABOVE,ENCLOSING CIRCLE",
    "ENCLOSING SQUARE,ENCLOSING DIAMOND,ENCLOSING CIRCLE BACKSLASH,LEFT RIGHT ARROW ABOVE",
    "ENCLOSING SCREEN,ENCLOSING KEYCAP,ENCLOSING UPWARD POINTING TRIANGLE",
    "REVERSE SOLIDUS OVERLAY,DOUBLE VERTICAL STROKE OVERLAY,ANNUITY SYMBOL,TRIPLE UNDERDOT",
    "WIDE BRIDGE ABOVE,LEFTWARDS ARROW OVERLAY,LONG DOUBLE SOLIDUS OVERLAY",
    "RIGHTWARDS HARPOON WITH BARB DOWNWARDS,LEFTWARDS HARPOON WITH BARB DOWNWARDS",
    "LEFT ARROW BELOW,RIGHT ARROW BELOW,ASTERISK ABOVE"]⟩,
  ⟨8448, 1, "", ["ACCOUNT OF,ADDRESSED TO THE SUBJECT,DOUBLE-STRUCK CAPITAL C,DEGREE CELSIUS",
    "CENTRE LINE SYMBOL,CARE OF,CADA UNA,EULER CONSTANT,SCRUPLE,DEGREE FAHRENHEIT,SCRIPT SMALL G",
    "SCRIPT CAPITAL H,BLACK-LETTER CAPITAL H,DOUBLE-STRUCK CAPITAL H,PLANCK CONSTANT",
    "PLANCK CONSTANT OVER TWO PI,SCRIPT CAPITAL I,BLACK-LETTER CAPITAL I,SCRIPT CAPITAL L",
    "SCRIPT SMALL L,L B BAR SYMBOL,DOUBLE-STRUCK CAPITAL N,NUMERO SIGN,SOUND RECORDING COPYRIGHT",
    "SCRIPT CAPITAL P,DOUBLE-STRUCK CAPITAL P,DOUBLE-STRUCK CAPITAL Q,SCRIPT CAPITAL R",
    "BLACK-LETTER CAPITAL R,DOUBLE-STRUCK CAPITAL R,PRESCRIPTION TAKE,RESPONSE,SERVICE MARK",
    "TELEPHONE SIGN,TRADE MARK SIGN,VERSICLE,DOUBLE-STRUCK CAPITAL Z,OUNCE SIGN,OHM SIGN",
    "INVERTED OHM SIGN,BLACK-LETTER CAPITAL Z,TURNED GREEK SMALL LETTER IOTA,KELVIN SIGN",
    "ANGSTROM SIGN,SCRIPT CAPITAL B,BLACK-LETTER CAPITAL C,ESTIMATED SYMBOL,SCRIPT SMALL E",
    "SCRIPT CAPITAL E,SCRIPT CAPITAL F,TURNED CAPITAL F,SCRIPT CAPITAL M,SCRIPT SMALL O",
    "ALEF SYMBOL,BET SYMBOL,GIMEL SYMBOL,DALET SYMBOL,INFORMATION SOURCE,ROTATED CAPITAL Q",
    "FACSIMILE SIGN"]⟩,
  ⟨8508, 1, "DOUBLE-STRUCK", ["SMALL PI,SMALL GAMMA,CAPITAL GAMMA,CAPITAL PI,N-ARY SUMMATION"]⟩,
  ⟨8513, 1, "TURNED SANS-SERIF CAPITAL", ["G,L"]⟩,
  ⟨8515, 1, "", ["REVERSED SANS-SERIF CAPITAL L,TURNED SANS-SERIF CAPITAL Y"]⟩,
  ⟨8517, 1, "DOUBLE-STRUCK ITALIC", ["CAPITAL D,SMALL D,SMALL E,SMALL I,SMALL J"]⟩,
  ⟨8522, 1, "", ["PROPERTY LINE,TURNED AMPERSAND,PER SIGN,AKTIESELSKAB,TURNED SMALL F",
    "SYMBOL FOR SAMARITAN SOURCE"]⟩,
  ⟨8528, 1, "VULGAR FRACTION", ["ONE SEVENTH,ONE NINTH,ONE TENTH,ONE THIRD,TWO THIRDS,ONE FIFTH",
    "TWO FIFTHS,THREE FIFTHS,FOUR FIFTHS,ONE SIXTH,FIVE SIXTHS,ONE EIGHTH,THREE EIGHTHS",
    "FIVE EIGHTHS,SEVEN EIGHTHS"]⟩,
  ⟨8543, 1, "FRACTION", ["NUMERATOR ONE"]⟩,
  ⟨8544, 1, "ROMAN NUMERAL", ["ONE,TWO,THREE,FOUR,FIVE,SIX,SEVEN,EIGHT,NINE,TEN,ELEVEN,TWELVE",
    "FIFTY,ONE HUNDRED,FIVE HUNDRED,ONE THOUSAND"]⟩,
  ⟨8560, 1, "SMALL ROMAN NUMERAL", ["ONE,TWO,THREE,FOUR,FIVE,SIX,SEVEN,EIGHT,NINE,TEN,ELEVEN",
    "TWELVE,FIFTY,ONE HUNDRED,FIVE HUNDRED,ONE THOUSAND"]⟩,
  ⟨8576, 1, "ROMAN NUMERAL", ["ONE THOUSAND C D,FIVE THOUSAND,TEN THOUSAND,REVERSED ONE HUNDRED"]⟩,
  ⟨8580, 1, "LATIN", ["SMALL LETTER REVERSED C"]⟩,
  ⟨8581, 1, "ROMAN NUMERAL", ["SIX LATE FORM,FIFTY EARLY FORM,FIFTY THOUSAND",
    "ONE HUNDRED THOUSAND"]⟩,
  ⟨8585, 1, "VULGAR", ["FRACTION ZERO THIRDS"]⟩,
  ⟨8586, 1, "TURNED DIGIT", ["TWO,THREE"]⟩,
  ⟨8592, 1, "", ["LEFTWARDS ARROW,UPWARDS ARROW,RIGHTWARDS ARROW,DOWNWARDS ARROW",
    "LEFT RIGHT ARROW,UP DOWN ARROW,NORTH WEST ARROW,NORTH EAST ARROW,SOUTH EAST ARROW",
    "SOUTH WEST ARROW,LEFTWARDS ARROW WITH STROKE,RIGHTWARDS ARROW WITH STROKE",
    "LEFTWARDS WAVE ARROW,RIGHTWARDS WAVE ARROW,LEFTWARDS TWO HEADED ARROW",
    "UPWARDS TWO HEADED ARROW,RIGHTWARDS TWO HEADED ARROW,DOWNWARDS TWO HEADED ARROW",
    "LEFTWARDS ARROW WITH TAIL,RIGHTWARDS ARROW WITH TAIL,LEFTWARDS ARROW FROM BAR",
    "UPWARDS ARROW FROM BAR,RIGHTWARDS ARROW FROM BAR,DOWNWARDS ARROW FROM BAR",
    "UP DOWN ARROW WITH BASE,LEFTWARDS ARROW WITH HOOK,RIGHTWARDS ARROW WITH HOOK",
    "LEFTWARDS ARROW WITH LOOP,RIGHTWARDS ARROW WITH LOOP,LEFT RIGHT WAVE ARROW",
    "LEFT RIGHT ARROW WITH STROKE,DOWNWARDS ZIGZAG ARROW"]⟩,
  ⟨8624, 1, "UPWARDS ARROW WITH TIP", ["LEFTWARDS,RIGHTWARDS"]⟩,
  ⟨8626, 1, "DOWNWARDS ARROW WITH TIP", ["LEFTWARDS,RIGHTWARDS"]⟩,
  ⟨8628, 1, "", ["RIGHTWARDS ARROW WITH CORNER DOWNWARDS,DOWNWARDS ARROW WITH CORNER LEFTWARDS",
    "ANTICLOCKWISE TOP SEMICIRCLE ARROW,CLOCKWISE TOP SEMICIRCLE ARROW",
    "NORTH WEST ARROW TO LONG BAR,LEFTWARDS ARROW TO BAR OVER RIGHTWARDS ARROW TO BAR",
    "ANTICLOCKWISE OPEN CIRCLE ARROW,CLOCKWISE OPEN CIRCLE ARROW"]⟩,
  ⟨8636, 1, "LEFTWARDS HARPOON WITH BARB", ["UPWARDS,DOWNWARDS"]⟩,
  ⟨8638, 1, "UPWARDS HARPOON WITH BARB", ["RIGHTWARDS,LEFTWARDS"]⟩,
  ⟨8640, 1, "RIGHTWARDS HARPOON WITH BARB", ["UPWARDS,DOWNWARDS"]⟩,
  ⟨8642, 1, "DOWNWARDS HARPOON WITH BARB", ["RIGHTWARDS,LEFTWARDS"]⟩,
  ⟨8644, 1, "", ["RIGHTWARDS ARROW OVER LEFTWARDS ARROW",
    "UPWARDS ARROW LEFTWARDS OF DOWNWARDS ARROW,LEFTWARDS ARROW OVER RIGHTWARDS ARROW",
    "LEFTWARDS PAIRED ARROWS,UPWARDS PAIRED ARROWS,RIGHTWARDS PAIRED ARROWS",
    "DOWNWARDS PAIRED ARROWS,LEFTWARDS HARPOON OVER RIGHTWARDS HARPOON",
    "RIGHTWARDS HARPOON OVER LEFTWARDS HARPOON,LEFTWARDS DOUBLE ARROW WITH STROKE",
    "LEFT RIGHT DOUBLE ARROW WITH STROKE,RIGHTWARDS DOUBLE ARROW WITH STROKE",
    "LEFTWARDS DOUBLE ARROW,UPWARDS DOUBLE ARROW,RIGHTWARDS DOUBLE ARROW,DOWNWARDS DOUBLE ARROW",
    "LEFT RIGHT DOUBLE ARROW,UP DOWN DOUBLE ARROW,NORTH WEST DOUBLE ARROW",
    "NORTH EAST DOUBLE ARROW,SOUTH EAST DOUBLE ARROW,SOUTH WEST DOUBLE ARROW",
    "LEFTWARDS TRIPLE ARROW,RIGHTWARDS TRIPLE ARROW,LEFTWARDS SQUIGGLE ARROW",
    "RIGHTWARDS SQUIGGLE ARROW,UPWARDS ARROW WITH DOUBLE STROKE",
    "DOWNWARDS ARROW WITH DOUBLE STROKE,LEFTWARDS DASHED ARROW,UPWARDS DASHED ARROW",
    "RIGHTWARDS DASHED ARROW,DOWNWARDS DASHED ARROW,LEFTWARDS ARROW TO BAR",
    "RIGHTWARDS ARROW TO BAR,LEFTWARDS WHITE ARROW,UPWARDS WHITE ARROW,RIGHTWARDS WHITE ARROW",
    "DOWNWARDS WHITE ARROW"]⟩,
  ⟨8682, 1, "UPWARDS WHITE", ["ARROW FROM BAR,ARROW ON PEDESTAL",
    "ARROW ON PEDESTAL WITH HORIZONTAL BAR,ARROW ON PEDESTAL WITH VERTICAL BAR,DOUBLE ARROW",
    "DOUBLE ARROW ON PEDESTAL"]⟩,
  ⟨8688, 1, "", ["RIGHTWARDS WHITE ARROW FROM WALL,NORTH WEST ARROW TO CORNER",
    "SOUTH EAST ARROW TO CORNER,UP DOWN WHITE ARROW,RIGHT ARROW WITH SMALL CIRCLE",
    "DOWNWARDS ARROW LEFTWARDS OF UPWARDS ARROW,THREE RIGHTWARDS ARROWS",
    "LEFTWARDS ARROW WITH VERTICAL STROKE,RIGHTWARDS ARROW WITH VERTICAL STROKE",
    "LEFT RIGHT ARROW WITH VERTICAL STROKE,LEFTWARDS ARROW WITH DOUBLE VERTICAL STROKE",
    "RIGHTWARDS ARROW WITH DOUBLE VERTICAL STROKE,LEFT RIGHT ARROW WITH DOUBLE VERTICAL STROKE",
    "LEFTWARDS OPEN-HEADED ARROW,RIGHTWARDS OPEN-HEADED ARROW,LEFT RIGHT OPEN-HEADED ARROW",
    "FOR ALL,COMPLEMENT,PARTIAL DIFFERENTIAL,THERE EXISTS,THERE DOES NOT EXIST,EMPTY SET",
    "INCREMENT,NABLA,ELEMENT OF,NOT AN ELEMENT OF,SMALL ELEMENT OF,CONTAINS AS MEMBER",
    "DOES NOT CONTAIN AS MEMBER,SMALL CONTAINS AS MEMBER,END OF PROOF,N-ARY PRODUCT",
    "N-ARY COPRODUCT,N-ARY SUMMATION,MINUS SIGN,MINUS-OR-PLUS SIGN,DOT PLUS,DIVISION SLASH",
    "SET MINUS,ASTERISK OPERATOR,RING OPERATOR,BULLET OPERATOR,SQUARE ROOT,CUBE ROOT,FOURTH ROOT",
    "PROPORTIONAL TO,INFINITY,RIGHT ANGLE,ANGLE,MEASURED ANGLE,SPHERICAL ANGLE,DIVIDES",
    "DOES NOT DIVIDE,PARALLEL TO,NOT PARALLEL TO,LOGICAL AND,LOGICAL OR,INTERSECTION,UNION",
    "INTEGRAL,DOUBLE INTEGRAL,TRIPLE INTEGRAL,CONTOUR INTEGRAL,SURFACE INTEGRAL,VOLUME INTEGRAL",
    "CLOCKWISE INTEGRAL,CLOCKWISE CONTOUR INTEGRAL,ANTICLOCKWISE CONTOUR INTEGRAL,THEREFORE",
    "BECAUSE,RATIO,PROPORTION,DOT MINUS,EXCESS,GEOMETRIC PROPORTION,HOMOTHETIC,TILDE OPERATOR",
    "REVERSED TILDE,INVERTED LAZY S,SINE WAVE,WREATH PRODUCT,NOT TILDE,MINUS TILDE",
    "ASYMPTOTICALLY EQUAL TO,NOT ASYMPTOTICALLY EQUAL TO,APPROXIMATELY EQUAL TO",
    "APPROXIMATELY BUT NOT ACTUALLY EQUAL TO,NEITHER APPROXIMATELY NOR ACTUALLY EQUAL TO",
    "ALMOST EQUAL TO,NOT ALMOST EQUAL TO,ALMOST EQUAL OR EQUAL TO,TRIPLE TILDE,ALL EQUAL TO",
    "EQUIVALENT TO,GEOMETRICALLY EQUIVALENT TO,DIFFERENCE BETWEEN,APPROACHES THE LIMIT",
    "GEOMETRICALLY EQUAL TO,APPROXIMATELY EQUAL TO OR THE IMAGE OF",
    "IMAGE OF OR APPROXIMATELY EQUAL TO,COLON EQUALS,EQUALS COLON,RING IN EQUAL TO,RING EQUAL TO",
    "CORRESPONDS TO,ESTIMATES,EQUIANGULAR TO,STAR EQUALS,DELTA EQUAL TO,EQUAL TO BY DEFINITION",
    "MEASURED BY,QUESTIONED EQUAL TO,NOT EQUAL TO,IDENTICAL TO,NOT IDENTICAL TO",
    "STRICTLY EQUIVALENT TO,LESS-THAN OR EQUAL TO,GREATER-THAN OR EQUAL TO",
    "LESS-THAN OVER EQUAL TO,GREATER-THAN OVER EQUAL TO,LESS-THAN BUT NOT EQUAL TO",
    "GREATER-THAN BUT NOT EQUAL TO,MUCH LESS-THAN,MUCH GREATER-THAN,BETWEEN,NOT EQUIVALENT TO",
    "NOT LESS-THAN,NOT GREATER-THAN,NEITHER LESS-THAN NOR EQUAL TO",
    "NEITHER GREATER-THAN NOR EQUAL TO,LESS-THAN OR EQUIVALENT TO,GREATER-THAN OR EQUIVALENT TO",
    "NEITHER LESS-THAN NOR EQUIVALENT TO,NEITHER GREATER-THAN NOR EQUIVALENT TO",
    "LESS-THAN OR GREATER-THAN,GREATER-THAN OR LESS-THAN,NEITHER LESS-THAN NOR GREATER-THAN",
    "NEITHER GREATER-THAN NOR LESS-THAN,PRECEDES,SUCCEEDS,PRECEDES OR EQUAL TO",
    "SUCCEEDS OR EQUAL TO,PRECEDES OR EQUIVALENT TO,SUCCEEDS OR EQUIVALENT TO,DOES NOT PRECEDE",
    "DOES NOT SUCCEED,SUBSET OF,SUPERSET OF,NOT A SUBSET OF,NOT A SUPERSET OF",
    "SUBSET OF OR EQUAL TO,SUPERSET OF OR EQUAL TO,NEITHER A SUBSET OF NOR EQUAL TO",
    "NEITHER A SUPERSET OF NOR EQUAL TO,SUBSET OF WITH NOT EQUAL TO",
    "SUPERSET OF WITH NOT EQUAL TO,MULTISET,MULTISET MULTIPLICATION,MULTISET UNION"]⟩,
  ⟨8847, 1, "SQUARE", ["IMAGE OF,ORIGINAL OF,IMAGE OF OR EQUAL TO,ORIGINAL OF OR EQUAL TO,CAP",
    "CUP"]⟩,
  ⟨8853, 1, "CIRCLED", ["PLUS,MINUS,TIMES,DIVISION SLASH,DOT OPERATOR,RING OPERATOR",
    "ASTERISK OPERATOR,EQUALS,DASH"]⟩,
  ⟨8862, 1, "SQUARED", ["PLUS,MINUS,TIMES,DOT OPERATOR"]⟩,
  ⟨8866, 1, "", ["RIGHT TACK,LEFT TACK,DOWN TACK,UP TACK,ASSERTION,MODELS,TRUE,FORCES",
    "TRIPLE VERTICAL BAR RIGHT TURNSTILE,DOUBLE VERTICAL BAR DOUBLE RIGHT TURNSTILE",
    "DOES NOT PROVE,NOT TRUE,DOES NOT FORCE,NEGATED DOUBLE VERTICAL BAR DOUBLE RIGHT TURNSTILE",
    "PRECEDES UNDER RELATION,SUCCEEDS UNDER RELATION,NORMAL SUBGROUP OF",
    "CONTAINS AS NORMAL SUBGROUP,NORMAL SUBGROUP OF OR EQUAL TO",
    "CONTAINS AS NORMAL SUBGROUP OR EQUAL TO,ORIGINAL OF,IMAGE OF,MULTIMAP",
    "HERMITIAN CONJUGATE MATRIX,INTERCALATE,XOR,NAND,NOR,RIGHT ANGLE WITH ARC,RIGHT TRIANGLE",
    "N-ARY LOGICAL AND,N-ARY LOGICAL OR,N-ARY INTERSECTION,N-ARY UNION,DIAMOND OPERATOR",
    "DOT OPERATOR,STAR OPERATOR,DIVISION TIMES,BOWTIE,LEFT NORMAL FACTOR SEMIDIRECT PRODUCT",
    "RIGHT NORMAL FACTOR SEMIDIRECT PRODUCT,LEFT SEMIDIRECT PRODUCT,RIGHT SEMIDIRECT PRODUCT",
    "REVERSED TILDE EQUALS,CURLY LOGICAL OR,CURLY LOGICAL AND,DOUBLE SUBSET,DOUBLE SUPERSET",
    "DOUBLE INTERSECTION,DOUBLE UNION,PITCHFORK,EQUAL AND PARALLEL TO,LESS-THAN WITH DOT",
    "GREATER-THAN WITH DOT,VERY MUCH LESS-THAN,VERY MUCH GREATER-THAN",
    "LESS-THAN EQUAL TO OR GREATER-THAN,GREATER-THAN EQUAL TO OR LESS-THAN"]⟩,
  ⟨8924, 1, "EQUAL TO OR", ["LESS-THAN,GREATER-THAN,PRECEDES,SUCCEEDS"]⟩,
  ⟨8928, 1, "", ["DOES NOT PRECEDE OR EQUAL,DOES NOT SUCCEED OR EQUAL",
    "NOT SQUARE IMAGE OF OR EQUAL TO,NOT SQUARE ORIGINAL OF OR EQUAL TO",
    "SQUARE IMAGE OF OR NOT EQUAL TO,SQUARE ORIGINAL OF OR NOT EQUAL TO",
    "LESS-THAN BUT NOT EQUIVALENT TO,GREATER-THAN BUT NOT EQUIVALENT TO",
    "PRECEDES BUT NOT EQUIVALENT TO,SUCCEEDS BUT NOT EQUIVALENT TO,NOT NORMAL SUBGROUP OF",
    "DOES NOT CONTAIN AS NORMAL SUBGROUP,NOT NORMAL SUBGROUP OF OR EQUAL TO",
    "DOES NOT CONTAIN AS NORMAL SUBGROUP OR EQUAL,VERTICAL ELLIPSIS,MIDLINE HORIZONTAL ELLIPSIS",
    "UP RIGHT DIAGONAL ELLIPSIS,DOWN RIGHT DIAGONAL ELLIPSIS",
    "ELEMENT OF WITH LONG HORIZONTAL STROKE",
    "ELEMENT OF WITH VERTICAL BAR AT END OF HORIZONTAL STROKE",
    "SMALL ELEMENT OF WITH VERTICAL BAR AT END OF HORIZONTAL STROKE,ELEMENT OF WITH DOT ABOVE",
    "ELEMENT OF WITH OVERBAR,SMALL ELEMENT OF WITH OVERBAR,ELEMENT OF WITH UNDERBAR",
    "ELEMENT OF WITH TWO HORIZONTAL STROKES,CONTAINS WITH LONG HORIZONTAL STROKE",
    "CONTAINS WITH VERTICAL BAR AT END OF HORIZONTAL STROKE",
    "SMALL CONTAINS WITH VERTICAL BAR AT END OF HORIZONTAL STROKE,CONTAINS WITH OVERBAR",
    "SMALL CONTAINS WITH OVERBAR,Z NOTATION BAG MEMBERSHIP,DIAMETER SIGN,ELECTRIC ARROW,HOUSE",
    "UP ARROWHEAD,DOWN ARROWHEAD,PROJECTIVE,PERSPECTIVE,WAVY LINE,LEFT CEILING,RIGHT CEILING",
    "LEFT FLOOR,RIGHT FLOOR,BOTTOM RIGHT CROP,BOTTOM LEFT CROP,TOP RIGHT CROP,TOP LEFT CROP",
    "REVERSED NOT SIGN,SQUARE LOZENGE,ARC,SEGMENT,SECTOR,TELEPHONE RECORDER,POSITION INDICATOR",
    "VIEWDATA SQUARE,PLACE OF INTEREST SIGN,TURNED NOT SIGN,WATCH,HOURGLASS,TOP LEFT CORNER",
    "TOP RIGHT CORNER,BOTTOM LEFT CORNER,BOTTOM RIGHT CORNER,TOP HALF INTEGRAL",
    "BOTTOM HALF INTEGRAL,FROWN,SMILE,UP ARROWHEAD BETWEEN TWO HORIZONTAL BARS,OPTION KEY",
    "ERASE TO THE RIGHT,X IN A RECTANGLE BOX,KEYBOARD,LEFT-POINTING ANGLE BRACKET",
    "RIGHT-POINTING ANGLE BRACKET,ERASE TO THE LEFT,BENZENE RING,CYLINDRICITY,ALL AROUND-PROFILE",
    "SYMMETRY,TOTAL RUNOUT,DIMENSION ORIGIN,CONICAL TAPER,SLOPE,COUNTERBORE,COUNTERSINK"]⟩,
  ⟨9014, 1, "APL FUNCTIONAL SYMBOL", ["I-BEAM,SQUISH QUAD,QUAD EQUAL,QUAD DIVIDE,QUAD DIAMOND",
    "QUAD JOT,QUAD CIRCLE,CIRCLE STILE,CIRCLE JOT,SLASH BAR,BACKSLASH BAR,QUAD SLASH",
    "QUAD BACKSLASH,QUAD LESS-THAN,QUAD GREATER-THAN,LEFTWARDS VANE,RIGHTWARDS VANE",
    "QUAD LEFTWARDS ARROW,QUAD RIGHTWARDS ARROW,CIRCLE BACKSLASH,DOWN TACK UNDERBAR,DELTA STILE",
    "QUAD DOWN CARET,QUAD DELTA,DOWN TACK JOT,UPWARDS VANE,QUAD UPWARDS ARROW,UP TACK OVERBAR",
    "DEL STILE,QUAD UP CARET,QUAD DEL,UP TACK JOT,DOWNWARDS VANE,QUAD DOWNWARDS ARROW",
    "QUOTE UNDERBAR,DELTA UNDERBAR,DIAMOND UNDERBAR,JOT UNDERBAR,CIRCLE UNDERBAR,UP SHOE JOT",
    "QUOTE QUAD,CIRCLE STAR,QUAD COLON,UP TACK DIAERESIS,DEL DIAERESIS,STAR DIAERESIS",
    "JOT DIAERESIS,CIRCLE DIAERESIS,DOWN SHOE STILE,LEFT SHOE STILE,TILDE DIAERESIS",
    "GREATER-THAN DIAERESIS,COMMA BAR,DEL TILDE,ZILDE,STILE TILDE,SEMICOLON UNDERBAR",
    "QUAD NOT EQUAL,QUAD QUESTION,DOWN CARET TILDE,UP CARET TILDE,IOTA,RHO,OMEGA,ALPHA UNDERBAR",
    "EPSILON UNDERBAR,IOTA UNDERBAR,OMEGA UNDERBAR,ALPHA"]⟩,
  ⟨9083, 1, "", ["NOT CHECK MARK,RIGHT ANGLE WITH DOWNWARDS ZIGZAG ARROW,SHOULDERED OPEN BOX",
    "BELL SYMBOL,VERTICAL LINE WITH MIDDLE DOT,INSERTION SYMBOL,CONTINUOUS UNDERLINE SYMBOL",
    "DISCONTINUOUS UNDERLINE SYMBOL,EMPHASIS SYMBOL,COMPOSITION SYMBOL",
    "WHITE SQUARE WITH CENTRE VERTICAL LINE,ENTER SYMBOL,ALTERNATIVE KEY SYMBOL,HELM SYMBOL",
    "CIRCLED HORIZONTAL BAR WITH NOTCH,CIRCLED TRIANGLE DOWN,BROKEN CIRCLE WITH NORTHWEST ARROW",
    "UNDO SYMBOL,MONOSTABLE SYMBOL,HYSTERESIS SYMBOL,OPEN-CIRCUIT-OUTPUT H-TYPE SYMBOL",
    "OPEN-CIRCUIT-OUTPUT L-TYPE SYMBOL,PASSIVE-PULL-DOWN-OUTPUT SYMBOL",
    "PASSIVE-PULL-UP-OUTPUT SYMBOL,DIRECT CURRENT SYMBOL FORM TWO,SOFTWARE-FUNCTION SYMBOL",
    "APL FUNCTIONAL SYMBOL QUAD,DECIMAL SEPARATOR KEY SYMBOL,PREVIOUS PAGE,NEXT PAGE",
    "PRINT SCREEN SYMBOL,CLEAR SCREEN SYMBOL"]⟩,
  ⟨9115, 1, "LEFT PARENTHESIS", ["UPPER HOOK,EXTENSION,LOWER HOOK"]⟩,
  ⟨9118, 1, "RIGHT PARENTHESIS", ["UPPER HOOK,EXTENSION,LOWER HOOK"]⟩,
  ⟨9121, 1, "LEFT SQUARE BRACKET", ["UPPER CORNER,EXTENSION,LOWER CORNER"]⟩,
  ⟨9124, 1, "RIGHT SQUARE BRACKET", ["UPPER CORNER,EXTENSION,LOWER CORNER"]⟩,
  ⟨9127, 1, "LEFT CURLY BRACKET", ["UPPER HOOK,MIDDLE PIECE,LOWER HOOK"]⟩,
  ⟨9130, 1, "CURLY", ["BRACKET EXTENSION"]⟩,
  ⟨9131, 1, "RIGHT CURLY BRACKET", ["UPPER HOOK,MIDDLE PIECE,LOWER HOOK"]⟩,
  ⟨9134, 1, "", ["INTEGRAL EXTENSION,HORIZONTAL LINE EXTENSION",
    "UPPER LEFT OR LOWER RIGHT CURLY BRACKET SECTION",
    "UPPER RIGHT OR LOWER LEFT CURLY BRACKET SECTION,SUMMATION TOP,SUMMATION BOTTOM",
    "TOP SQUARE BRACKET,BOTTOM SQUARE BRACKET,BOTTOM SQUARE BRACKET OVER TOP SQUARE BRACKET",
    "RADICAL SYMBOL BOTTOM,LEFT VERTICAL BOX LINE,RIGHT VERTICAL BOX LINE"]⟩,
  ⟨9146, 1, "HORIZONTAL SCAN", ["LINE-1,LINE-3,LINE-7,LINE-9"]⟩,
  ⟨9150, 1, "DENTISTRY SYMBOL LIGHT", ["VERTICAL AND TOP RIGHT,VERTICAL AND BOTTOM RIGHT",
    "VERTICAL WITH CIRCLE,DOWN AND HORIZONTAL WITH CIRCLE,UP AND HORIZONTAL WITH CIRCLE",
    "VERTICAL WITH TRIANGLE,DOWN AND HORIZONTAL WITH TRIANGLE,UP AND HORIZONTAL WITH TRIANGLE",
    "VERTICAL AND WAVE,DOWN AND HORIZONTAL WITH WAVE,UP AND HORIZONTAL WITH WAVE",
    "DOWN AND HORIZONTAL,UP AND HORIZONTAL,VERTICAL AND TOP LEFT,VERTICAL AND BOTTOM LEFT"]⟩,
  ⟨9165, 1, "", ["SQUARE FOOT,RETURN SYMBOL,EJECT SYMBOL,VERTICAL LINE EXTENSION"]⟩,
  ⟨9169, 1, "METRICAL", ["BREVE,LONG OVER SHORT,SHORT OVER LONG,LONG OVER TWO SHORTS",
    "TWO SHORTS OVER LONG,TWO SHORTS JOINED,TRISEME,TETRASEME,PENTASEME"]⟩,
  ⟨9178, 1, "", ["EARTH GROUND,FUSE,TOP PARENTHESIS,BOTTOM PARENTHESIS,TOP CURLY BRACKET",
    "BOTTOM CURLY BRACKET,TOP TORTOISE SHELL BRACKET,BOTTOM TORTOISE SHELL BRACKET",
    "WHITE TRAPEZIUM,BENZENE RING WITH CIRCLE,STRAIGHTNESS,FLATNESS,AC CURRENT",
    "ELECTRICAL INTERSECTION,DECIMAL EXPONENT SYMBOL"]⟩,
  ⟨9193, 1, "BLACK", ["RIGHT-POINTING DOUBLE TRIANGLE,LEFT-POINTING DOUBLE TRIANGLE",
    "UP-POINTING DOUBLE TRIANGLE,DOWN-POINTING DOUBLE TRIANGLE",
    "RIGHT-POINTING DOUBLE TRIANGLE WITH VERTICAL BAR",
    "LEFT-POINTING DOUBLE TRIANGLE WITH VERTICAL BAR",
    "RIGHT-POINTING TRIANGLE WITH DOUBLE VERTICAL BAR"]⟩,
  ⟨9200, 1, "", ["ALARM CLOCK,STOPWATCH,TIMER CLOCK,HOURGLASS WITH FLOWING SAND"]⟩,
  ⟨9204, 1, "BLACK MEDIUM", ["LEFT-POINTING TRIANGLE,RIGHT-POINTING TRIANGLE",
    "UP-POINTING TRIANGLE,DOWN-POINTING TRIANGLE"]⟩,
  ⟨9208, 1, "", ["DOUBLE VERTICAL BAR,BLACK SQUARE FOR STOP,BLACK CIRCLE FOR RECORD,POWER SYMBOL",
    "POWER ON-OFF SYMBOL,POWER ON SYMBOL,POWER SLEEP SYMBOL,OBSERVER EYE SYMBOL"]⟩,
  ⟨9216, 1, "SYMBOL FOR", ["NULL,START OF HEADING,START OF TEXT,END OF TEXT,END OF TRANSMISSION",
    "ENQUIRY,ACKNOWLEDGE,BELL,BACKSPACE,HORIZONTAL TABULATION,LINE FEED,VERTICAL TABULATION",
    "FORM FEED,CARRIAGE RETURN,SHIFT OUT,SHIFT IN,DATA LINK ESCAPE,DEVICE CONTROL ONE",
    "DEVICE CONTROL TWO,DEVICE CONTROL THREE,DEVICE CONTROL FOUR,NEGATIVE ACKNOWLEDGE",
    "SYNCHRONOUS IDLE,END OF TRANSMISSION BLOCK,CANCEL,END OF MEDIUM,SUBSTITUTE,ESCAPE",
    "FILE SEPARATOR,GROUP SEPARATOR,RECORD SEPARATOR,UNIT SEPARATOR,SPACE,DELETE"]⟩,
  ⟨9250, 1, "", ["BLANK SYMBOL,OPEN BOX"]⟩,
  ⟨9252, 1, "SYMBOL FOR", ["NEWLINE,DELETE FORM TWO,SUBSTITUTE FORM TWO"]⟩,
  ⟨9280, 1, "OCR", ["HOOK,CHAIR,FORK,INVERTED FORK,BELT BUCKLE,BOW TIE",
    "BRANCH BANK IDENTIFICATION,AMOUNT OF CHECK,DASH,CUSTOMER ACCOUNT NUMBER,DOUBLE BACKSLASH"]⟩,
  ⟨9312, 1, "CIRCLED DIGIT", ["ONE,TWO,THREE,FOUR,FIVE,SIX,SEVEN,EIGHT,NINE"]⟩,
  ⟨9321, 1, "CIRCLED NUMBER", ["TEN,ELEVEN,TWELVE,THIRTEEN,FOURTEEN,FIFTEEN,SIXTEEN,SEVENTEEN",
    "EIGHTEEN,NINETEEN,TWENTY"]⟩,
  ⟨9332, 1, "PARENTHESIZED DIGIT", ["ONE,TWO,THREE,FOUR,FIVE,SIX,SEVEN,EIGHT,NINE"]⟩,
  ⟨9341, 1, "PARENTHESIZED NUMBER", ["TEN,ELEVEN,TWELVE,THIRTEEN,FOURTEEN,FIFTEEN,SIXTEEN",
    "SEVENTEEN,EIGHTEEN,NINETEEN,TWENTY"]⟩,
  ⟨9352, 1, "DIGIT", ["ONE FULL STOP,TWO FULL STOP,THREE FULL STOP,FOUR FULL STOP,FIVE FULL STOP",
    "SIX FULL STOP,SEVEN FULL STOP,EIGHT FULL STOP,NINE FULL STOP"]⟩,
  ⟨9361, 1, "NUMBER", ["TEN FULL STOP,ELEVEN FULL STOP,TWELVE FULL STOP,THIRTEEN FULL STOP",
    "FOURTEEN FULL STOP,FIFTEEN FULL STOP,SIXTEEN FULL STOP,SEVENTEEN FULL STOP",
    "EIGHTEEN FULL STOP,NINETEEN FULL STOP,TWENTY FULL STOP"]⟩,
  ⟨9372, 1, "PARENTHESIZED LATIN SMALL LETTER", ["A,B,C,D,E,F,G,H,I,J,K,L,M,N,O,P,Q,R,S,T,U,V,W",
    "X,Y,Z"]⟩,
  ⟨9398, 1, "CIRCLED LATIN CAPITAL LETTER", ["A,B,C,D,E,F,G,H,I,J,K,L,M,N,O,P,Q,R,S,T,U,V,W,X,Y",
    "Z"]⟩,
  ⟨9424, 1, "CIRCLED LATIN SMALL LETTER", ["A,B,C,D,E,F,G,H,I,J,K,L,M,N,O,P,Q,R,S,T,U,V,W,X,Y,Z"]⟩,
  ⟨9450, 1, "CIRCLED", ["DIGIT ZERO"]⟩,
  ⟨9451, 1, "NEGATIVE CIRCLED NUMBER", ["ELEVEN,TWELVE,THIRTEEN,FOURTEEN,FIFTEEN,SIXTEEN",
    "SEVENTEEN,EIGHTEEN,NINETEEN,TWENTY"]⟩,
  ⟨9461, 1, "DOUBLE CIRCLED DIGIT", ["ONE,TWO,THREE,FOUR,FIVE,SIX,SEVEN,EIGHT,NINE"]⟩,
  ⟨9470, 1, "", ["DOUBLE CIRCLED NUMBER TEN,NEGATIVE CIRCLED DIGIT ZERO"]⟩,
  ⟨9472, 1, "BOX DRAWINGS", ["LIGHT HORIZONTAL,HEAVY HORIZONTAL,LIGHT VERTICAL,HEAVY VERTICAL",
    "LIGHT TRIPLE DASH HORIZONTAL,HEAVY TRIPLE DASH HORIZONTAL,LIGHT TRIPLE DASH VERTICAL",
    "HEAVY TRIPLE DASH VERTICAL,LIGHT QUADRUPLE DASH HORIZONTAL,HEAVY QUADRUPLE DASH HORIZONTAL",
    "LIGHT QUADRUPLE DASH VERTICAL,HEAVY QUADRUPLE DASH VERTICAL,LIGHT DOWN AND RIGHT",
    "DOWN LIGHT AND RIGHT HEAVY,DOWN HEAVY AND RIGHT LIGHT,HEAVY DOWN AND RIGHT",
    "LIGHT DOWN AND LEFT,DOWN LIGHT AND LEFT HEAVY,DOWN HEAVY AND LEFT LIGHT,HEAVY DOWN AND LEFT",
    "LIGHT UP AND RIGHT,UP LIGHT AND RIGHT HEAVY,UP HEAVY AND RIGHT LIGHT,HEAVY UP AND RIGHT",
    "LIGHT UP AND LEFT,UP LIGHT AND LEFT HEAVY,UP HEAVY AND LEFT LIGHT,HEAVY UP AND LEFT",
    "LIGHT VERTICAL AND RIGHT,VERTICAL LIGHT AND RIGHT HEAVY,UP HEAVY AND RIGHT DOWN LIGHT",
    "DOWN HEAVY AND RIGHT UP LIGHT,VERTICAL HEAVY AND RIGHT LIGHT,DOWN LIGHT AND RIGHT UP HEAVY",
    "UP LIGHT AND RIGHT DOWN HEAVY,HEAVY VERTICAL AND RIGHT,LIGHT VERTICAL AND LEFT",
    "VERTICAL LIGHT AND LEFT HEAVY,UP HEAVY AND LEFT DOWN LIGHT,DOWN HEAVY AND LEFT UP LIGHT",
    "VERTICAL HEAVY AND LEFT LIGHT,DOWN LIGHT AND LEFT UP HEAVY,UP LIGHT AND LEFT DOWN HEAVY",
    "HEAVY VERTICAL AND LEFT,LIGHT DOWN AND HORIZONTAL,LEFT HEAVY AND RIGHT DOWN LIGHT",
    "RIGHT HEAVY AND LEFT DOWN LIGHT,DOWN LIGHT AND HORIZONTAL HEAVY",
    "DOWN HEAVY AND HORIZONTAL LIGHT,RIGHT LIGHT AND LEFT DOWN HEAVY",
    "LEFT LIGHT AND RIGHT DOWN HEAVY,HEAVY DOWN AND HORIZONTAL,LIGHT UP AND HORIZONTAL",
    "LEFT HEAVY AND RIGHT UP LIGHT,RIGHT HEAVY AND LEFT UP LIGHT,UP LIGHT AND HORIZONTAL HEAVY",
    "UP HEAVY AND HORIZONTAL LIGHT,RIGHT LIGHT AND LEFT UP HEAVY,LEFT LIGHT AND RIGHT UP HEAVY",
    "HEAVY UP AND HORIZONTAL,LIGHT VERTICAL AND HORIZONTAL,LEFT HEAVY AND RIGHT VERTICAL LIGHT",
    "RIGHT HEAVY AND LEFT VERTICAL LIGHT,VERTICAL LIGHT AND HORIZONTAL HEAVY",
    "UP HEAVY AND DOWN HORIZONTAL LIGHT,DOWN HEAVY AND UP HORIZONTAL LIGHT",
    "VERTICAL HEAVY AND HORIZONTAL LIGHT,LEFT UP HEAVY AND RIGHT DOWN LIGHT",
    "RIGHT UP HEAVY AND LEFT DOWN LIGHT,LEFT DOWN HEAVY AND RIGHT UP LIGHT",
    "RIGHT DOWN HEAVY AND LEFT UP LIGHT,DOWN LIGHT AND UP HORIZONTAL HEAVY",
    "UP LIGHT AND DOWN HORIZONTAL HEAVY,RIGHT LIGHT AND LEFT VERTICAL HEAVY",
    "LEFT LIGHT AND RIGHT VERTICAL HEAVY,HEAVY VERTICAL AND HORIZONTAL",
    "LIGHT DOUBLE DASH HORIZONTAL,HEAVY DOUBLE DASH HORIZONTAL,LIGHT DOUBLE DASH VERTICAL",
    "HEAVY DOUBLE DASH VERTICAL,DOUBLE HORIZONTAL,DOUBLE VERTICAL,DOWN SINGLE AND RIGHT DOUBLE",
    "DOWN DOUBLE AND RIGHT SINGLE,DOUBLE DOWN AND RIGHT,DOWN SINGLE AND LEFT DOUBLE",
    "DOWN DOUBLE AND LEFT SINGLE,DOUBLE DOWN AND LEFT,UP SINGLE AND RIGHT DOUBLE",
    "UP DOUBLE AND RIGHT SINGLE,DOUBLE UP AND RIGHT,UP SINGLE AND LEFT DOUBLE",
    "UP DOUBLE AND LEFT SINGLE,DOUBLE UP AND LEFT,VERTICAL SINGLE AND RIGHT DOUBLE",
    "VERTICAL DOUBLE AND RIGHT SINGLE,DOUBLE VERTICAL AND RIGHT,VERTICAL SINGLE AND LEFT DOUBLE",
    "VERTICAL DOUBLE AND LEFT SINGLE,DOUBLE VERTICAL AND LEFT,DOWN SINGLE AND HORIZONTAL DOUBLE",
    "DOWN DOUBLE AND HORIZONTAL SINGLE,DOUBLE DOWN AND HORIZONTAL",
    "UP SINGLE AND HORIZONTAL DOUBLE,UP DOUBLE AND HORIZONTAL SINGLE,DOUBLE UP AND HORIZONTAL",
    "VERTICAL SINGLE AND HORIZONTAL DOUBLE,VERTICAL DOUBLE AND HORIZONTAL SINGLE",
    "DOUBLE VERTICAL AND HORIZONTAL"]⟩,
  ⟨9581, 1, "BOX DRAWINGS LIGHT", ["ARC DOWN AND RIGHT,ARC DOWN AND LEFT,ARC UP AND LEFT",
    "ARC UP AND RIGHT,DIAGONAL UPPER RIGHT TO LOWER LEFT,DIAGONAL UPPER LEFT TO LOWER RIGHT",
    "DIAGONAL CROSS,LEFT,UP,RIGHT,DOWN"]⟩,
  ⟨9592, 1, "BOX DRAWINGS", ["HEAVY LEFT,HEAVY UP,HEAVY RIGHT,HEAVY DOWN",
    "LIGHT LEFT AND HEAVY RIGHT,LIGHT UP AND HEAVY DOWN,HEAVY LEFT AND LIGHT RIGHT",
    "HEAVY UP AND LIGHT DOWN"]⟩,
  ⟨9600, 1, "UPPER", ["HALF BLOCK"]⟩,
  ⟨9601, 1, "LOWER", ["ONE EIGHTH BLOCK,ONE QUARTER BLOCK,THREE EIGHTHS BLOCK,HALF BLOCK",
    "FIVE EIGHTHS BLOCK,THREE QUARTERS BLOCK,SEVEN EIGHTHS BLOCK"]⟩,
  ⟨9608, 1, "FULL", ["BLOCK"]⟩,
  ⟨9609, 1, "LEFT", ["SEVEN EIGHTHS BLOCK,THREE QUARTERS BLOCK,FIVE EIGHTHS BLOCK,HALF BLOCK",
    "THREE EIGHTHS BLOCK,ONE QUARTER BLOCK,ONE EIGHTH BLOCK"]⟩,
  ⟨9616, 1, "", ["RIGHT HALF BLOCK,LIGHT SHADE,MEDIUM SHADE,DARK SHADE,UPPER ONE EIGHTH BLOCK",
    "RIGHT ONE EIGHTH BLOCK"]⟩,
  ⟨9622, 1, "QUADRANT LOWER", ["LEFT,RIGHT"]⟩,
  ⟨9624, 1, "QUADRANT UPPER", ["LEFT,LEFT AND LOWER LEFT AND LOWER RIGHT,LEFT AND LOWER RIGHT",
    "LEFT AND UPPER RIGHT AND LOWER LEFT,LEFT AND UPPER RIGHT AND LOWER RIGHT,RIGHT",
    "RIGHT AND LOWER LEFT,RIGHT AND LOWER LEFT AND LOWER RIGHT"]⟩,
  ⟨9632, 1, "", ["BLACK SQUARE,WHITE SQUARE,WHITE SQUARE WITH ROUNDED CORNERS",
    "WHITE SQUARE CONTAINING BLACK SMALL SQUARE"]⟩,
  ⟨9636, 1, "SQUARE WITH", ["HORIZONTAL FILL,VERTICAL FILL,ORTHOGONAL CROSSHATCH FILL",
    "UPPER LEFT TO LOWER RIGHT FILL,UPPER RIGHT TO LOWER LEFT FILL,DIAGONAL CROSSHATCH FILL"]⟩,
  ⟨9642, 1, "", ["BLACK SMALL SQUARE,WHITE SMALL SQUARE,BLACK RECTANGLE,WHITE RECTANGLE",
    "BLACK VERTICAL RECTANGLE,WHITE VERTICAL RECTANGLE,BLACK PARALLELOGRAM,WHITE PARALLELOGRAM",
    "BLACK UP-POINTING TRIANGLE,WHITE UP-POINTING TRIANGLE,BLACK UP-POINTING SMALL TRIANGLE",
    "WHITE UP-POINTING SMALL TRIANGLE,BLACK RIGHT-POINTING TRIANGLE",
    "WHITE RIGHT-POINTING TRIANGLE,BLACK RIGHT-POINTING SMALL TRIANGLE",
    "WHITE RIGHT-POINTING SMALL TRIANGLE,BLACK RIGHT-POINTING POINTER",
    "WHITE RIGHT-POINTING POINTER,BLACK DOWN-POINTING TRIANGLE,WHITE DOWN-POINTING TRIANGLE",
    "BLACK DOWN-POINTING SMALL TRIANGLE,WHITE DOWN-POINTING SMALL TRIANGLE",
    "BLACK LEFT-POINTING TRIANGLE,WHITE LEFT-POINTING TRIANGLE",
    "BLACK LEFT-POINTING SMALL TRIANGLE,WHITE LEFT-POINTING SMALL TRIANGLE",
    "BLACK LEFT-POINTING POINTER,WHITE LEFT-POINTING POINTER,BLACK DIAMOND,WHITE DIAMOND",
    "WHITE DIAMOND CONTAINING BLACK SMALL DIAMOND,FISHEYE,LOZENGE,WHITE CIRCLE,DOTTED CIRCLE",
    "CIRCLE WITH VERTICAL FILL,BULLSEYE,BLACK CIRCLE"]⟩,
  ⟨9680, 1, "CIRCLE WITH", ["LEFT HALF BLACK,RIGHT HALF BLACK,LOWER HALF BLACK,UPPER HALF BLACK",
    "UPPER RIGHT QUADRANT BLACK,ALL BUT UPPER LEFT QUADRANT BLACK"]⟩,
  ⟨9686, 1, "", ["LEFT HALF BLACK CIRCLE,RIGHT HALF BLACK CIRCLE,INVERSE BULLET",
    "INVERSE WHITE CIRCLE,UPPER HALF INVERSE WHITE CIRCLE,LOWER HALF INVERSE WHITE CIRCLE",
    "UPPER LEFT QUADRANT CIRCULAR ARC,UPPER RIGHT QUADRANT CIRCULAR ARC",
    "LOWER RIGHT QUADRANT CIRCULAR ARC,LOWER LEFT QUADRANT CIRCULAR ARC,UPPER HALF CIRCLE",
    "LOWER HALF CIRCLE,BLACK LOWER RIGHT TRIANGLE,BLACK LOWER LEFT TRIANGLE",
    "BLACK UPPER LEFT TRIANGLE,BLACK UPPER RIGHT TRIANGLE,WHITE BULLET"]⟩,
  ⟨9703, 1, "SQUARE WITH", ["LEFT HALF BLACK,RIGHT HALF BLACK,UPPER LEFT DIAGONAL HALF BLACK",
    "LOWER RIGHT DIAGONAL HALF BLACK"]⟩,
  ⟨9707, 1, "WHITE", ["SQUARE WITH VERTICAL BISECTING LINE,UP-POINTING TRIANGLE WITH DOT"]⟩,
  ⟨9709, 1, "UP-POINTING TRIANGLE WITH", ["LEFT HALF BLACK,RIGHT HALF BLACK"]⟩,
  ⟨9711, 1, "LARGE", ["CIRCLE"]⟩,
  ⟨9712, 1, "WHITE SQUARE WITH", ["UPPER LEFT QUADRANT,LOWER LEFT QUADRANT,LOWER RIGHT QUADRANT",
    "UPPER RIGHT QUADRANT"]⟩,
  ⟨9716, 1, "WHITE CIRCLE WITH", ["UPPER LEFT QUADRANT,LOWER LEFT QUADRANT,LOWER RIGHT QUADRANT",
    "UPPER RIGHT QUADRANT"]⟩,
  ⟨9720, 1, "", ["UPPER LEFT TRIANGLE,UPPER RIGHT TRIANGLE,LOWER LEFT TRIANGLE",
    "WHITE MEDIUM SQUARE,BLACK MEDIUM SQUARE,WHITE MEDIUM SMALL SQUARE,BLACK MEDIUM SMALL SQUARE",
    "LOWER RIGHT TRIANGLE,BLACK SUN WITH RAYS,CLOUD,UMBRELLA,SNOWMAN,COMET,BLACK STAR,WHITE STAR",
    "LIGHTNING,THUNDERSTORM,SUN,ASCENDING NODE,DESCENDING NODE,CONJUNCTION,OPPOSITION",
    "BLACK TELEPHONE,WHITE TELEPHONE,BALLOT BOX,BALLOT BOX WITH CHECK,BALLOT BOX WITH X,SALTIRE",
    "UMBRELLA WITH RAIN DROPS,HOT BEVERAGE,WHITE SHOGI PIECE,BLACK SHOGI PIECE,SHAMROCK",
    "REVERSED ROTATED FLORAL HEART BULLET,BLACK LEFT POINTING INDEX,BLACK RIGHT POINTING INDEX",
    "WHITE LEFT POINTING INDEX,WHITE UP POINTING INDEX,WHITE RIGHT POINTING INDEX",
    "WHITE DOWN POINTING INDEX,SKULL AND CROSSBONES,CAUTION SIGN,RADIOACTIVE SIGN,BIOHAZARD SIGN",
    "CADUCEUS,ANKH,ORTHODOX CROSS,CHI RHO,CROSS OF LORRAINE,CROSS OF JERUSALEM,STAR AND CRESCENT",
    "FARSI SYMBOL,ADI SHAKTI,HAMMER AND SICKLE,PEACE SYMBOL,YIN YANG"]⟩,
  ⟨9776, 1, "TRIGRAM FOR", ["HEAVEN,LAKE,FIRE,THUNDER,WIND,WATER,MOUNTAIN,EARTH"]⟩,
  ⟨9784, 1, "", ["WHEEL OF DHARMA,WHITE FROWNING FACE,WHITE SMILING FACE,BLACK SMILING FACE",
    "WHITE SUN WITH RAYS,FIRST QUARTER MOON,LAST QUARTER MOON,MERCURY,FEMALE SIGN,EARTH",
    "MALE SIGN,JUPITER,SATURN,URANUS,NEPTUNE,PLUTO,ARIES,TAURUS,GEMINI,CANCER,LEO,VIRGO,LIBRA",
    "SCORPIUS,SAGITTARIUS,CAPRICORN,AQUARIUS,PISCES"]⟩,
  ⟨9812, 1, "WHITE CHESS", ["KING,QUEEN,ROOK,BISHOP,KNIGHT,PAWN"]⟩,
  ⟨9818, 1, "BLACK CHESS", ["KING,QUEEN,ROOK,BISHOP,KNIGHT,PAWN"]⟩,
  ⟨9824, 1, "", ["BLACK SPADE SUIT,WHITE HEART SUIT,WHITE DIAMOND SUIT,BLACK CLUB SUIT",
    "WHITE SPADE SUIT,BLACK HEART SUIT,BLACK DIAMOND SUIT,WHITE CLUB SUIT,HOT SPRINGS",
    "QUARTER NOTE,EIGHTH NOTE,BEAMED EIGHTH NOTES,BEAMED SIXTEENTH NOTES,MUSIC FLAT SIGN",
    "MUSIC NATURAL SIGN,MUSIC SHARP SIGN,WEST SYRIAC CROSS,EAST SYRIAC CROSS",
    "UNIVERSAL RECYCLING SYMBOL"]⟩,
  ⟨9843, 1, "RECYCLING SYMBOL FOR", ["TYPE-1 PLASTICS,TYPE-2 PLASTICS,TYPE-3 PLASTICS",
    "TYPE-4 PLASTICS,TYPE-5 PLASTICS,TYPE-6 PLASTICS,TYPE-7 PLASTICS,GENERIC MATERIALS"]⟩,
  ⟨9851, 1, "", ["BLACK UNIVERSAL RECYCLING SYMBOL,RECYCLED PAPER SYMBOL",
    "PARTIALLY-RECYCLED PAPER SYMBOL,PERMANENT PAPER SIGN,WHEELCHAIR SYMBOL"]⟩,
  ⟨9856, 1, "DIE", ["FACE-1,FACE-2,FACE-3,FACE-4,FACE-5,FACE-6"]⟩,
  ⟨9862, 1, "WHITE CIRCLE WITH", ["DOT RIGHT,TWO DOTS"]⟩,
  ⟨9864, 1, "BLACK CIRCLE WITH", ["WHITE DOT RIGHT,TWO WHITE DOTS"]⟩,
  ⟨9866, 1, "MONOGRAM FOR", ["YANG,YIN"]⟩,
  ⟨9868, 1, "DIGRAM FOR", ["GREATER YANG,LESSER YIN,LESSER YANG,GREATER YIN"]⟩,
  ⟨9872, 1, "", ["WHITE FLAG,BLACK FLAG,HAMMER AND PICK,ANCHOR,CROSSED SWORDS",
    "STAFF OF AESCULAPIUS,SCALES,ALEMBIC,FLOWER,GEAR,STAFF OF HERMES,ATOM SYMBOL,FLEUR-DE-LIS",
    "OUTLINED WHITE STAR,THREE LINES CONVERGING RIGHT,THREE LINES CONVERGING LEFT,WARNING SIGN",
    "HIGH VOLTAGE SIGN,DOUBLED FEMALE SIGN,DOUBLED MALE SIGN,INTERLOCKED FEMALE AND MALE SIGN",
    "MALE AND FEMALE SIGN,MALE WITH STROKE SIGN,MALE WITH STROKE AND MALE AND FEMALE SIGN",
    "VERTICAL MALE WITH STROKE SIGN,HORIZONTAL MALE WITH STROKE SIGN,MEDIUM WHITE CIRCLE",
    "MEDIUM BLACK CIRCLE,MEDIUM SMALL WHITE CIRCLE,MARRIAGE SYMBOL,DIVORCE SYMBOL",
    "UNMARRIED PARTNERSHIP SYMBOL,COFFIN,FUNERAL URN,NEUTER,CERES,PALLAS,JUNO,VESTA,CHIRON",
    "BLACK MOON LILITH,SEXTILE,SEMISEXTILE,QUINCUNX,SESQUIQUADRATE,SOCCER BALL,BASEBALL",
    "SQUARED KEY,WHITE DRAUGHTS MAN,WHITE DRAUGHTS KING,BLACK DRAUGHTS MAN,BLACK DRAUGHTS KING",
    "SNOWMAN WITHOUT SNOW,SUN BEHIND CLOUD,RAIN,BLACK SNOWMAN,THUNDER CLOUD AND RAIN",
    "TURNED WHITE SHOGI PIECE,TURNED BLACK SHOGI PIECE,WHITE DIAMOND IN SQUARE,CROSSING LANES",
    "DISABLED CAR,OPHIUCHUS,PICK,CAR SLIDING,HELMET WITH WHITE CROSS,CIRCLED CROSSING LANES",
    "CHAINS,NO ENTRY,ALTERNATE ONE-WAY LEFT WAY TRAFFIC,BLACK TWO-WAY LEFT WAY TRAFFIC",
    "WHITE TWO-WAY LEFT WAY TRAFFIC,BLACK LEFT LANE MERGE,WHITE LEFT LANE MERGE,DRIVE SLOW SIGN",
    "HEAVY WHITE DOWN-POINTING TRIANGLE,LEFT CLOSED ENTRY,SQUARED SALTIRE",
    "FALLING DIAGONAL IN WHITE CIRCLE IN BLACK SQUARE,BLACK TRUCK,RESTRICTED LEFT ENTRY-1",
    "RESTRICTED LEFT ENTRY-2,ASTRONOMICAL SYMBOL FOR URANUS",
    "HEAVY CIRCLE WITH STROKE AND TWO DOTS ABOVE,PENTAGRAM,RIGHT-HANDED INTERLACED PENTAGRAM",
    "LEFT-HANDED INTERLACED PENTAGRAM,INVERTED PENTAGRAM,BLACK CROSS ON SHIELD,SHINTO SHRINE",
    "CHURCH,CASTLE,HISTORIC SITE,GEAR WITHOUT HUB,GEAR WITH HANDLES,MAP SYMBOL FOR LIGHTHOUSE",
    "MOUNTAIN,UMBRELLA ON GROUND,FOUNTAIN,FLAG IN HOLE,FERRY,SAILBOAT,SQUARE FOUR CORNERS,SKIER",
    "ICE SKATE,PERSON WITH BALL,TENT,JAPANESE BANK SYMBOL,HEADSTONE GRAVEYARD SYMBOL,FUEL PUMP",
    "CUP ON BLACK SQUARE,WHITE FLAG WITH HORIZONTAL MIDDLE BLACK STRIPE,BLACK SAFETY SCISSORS",
    "UPPER BLADE SCISSORS,BLACK SCISSORS,LOWER BLADE SCISSORS,WHITE SCISSORS",
    "WHITE HEAVY CHECK MARK,TELEPHONE LOCATION SIGN,TAPE DRIVE,AIRPLANE,ENVELOPE,RAISED FIST",
    "RAISED HAND,VICTORY HAND,WRITING HAND,LOWER RIGHT PENCIL,PENCIL,UPPER RIGHT PENCIL",
    "WHITE NIB,BLACK NIB,CHECK MARK,HEAVY CHECK MARK,MULTIPLICATION X,HEAVY MULTIPLICATION X",
    "BALLOT X,HEAVY BALLOT X,OUTLINED GREEK CROSS,HEAVY GREEK CROSS,OPEN CENTRE CROSS",
    "HEAVY OPEN CENTRE CROSS,LATIN CROSS,SHADOWED WHITE LATIN CROSS,OUTLINED LATIN CROSS",
    "MALTESE CROSS,STAR OF DAVID,FOUR TEARDROP-SPOKED ASTERISK,FOUR BALLOON-SPOKED ASTERISK",
    "HEAVY FOUR BALLOON-SPOKED ASTERISK,FOUR CLUB-SPOKED ASTERISK,BLACK FOUR POINTED STAR",
    "WHITE FOUR POINTED STAR,SPARKLES,STRESS OUTLINED WHITE STAR,CIRCLED WHITE STAR",
    "OPEN CENTRE BLACK STAR,BLACK CENTRE WHITE STAR,OUTLINED BLACK STAR",
    "HEAVY OUTLINED BLACK STAR,PINWHEEL STAR,SHADOWED WHITE STAR,HEAVY ASTERISK",
    "OPEN CENTRE ASTERISK,EIGHT SPOKED ASTERISK,EIGHT POINTED BLACK STAR",
    "EIGHT POINTED PINWHEEL STAR,SIX POINTED BLACK STAR,EIGHT POINTED RECTILINEAR BLACK STAR",
    "HEAVY EIGHT POINTED RECTILINEAR BLACK STAR,TWELVE POINTED BLACK STAR",
    "SIXTEEN POINTED ASTERISK,TEARDROP-SPOKED ASTERISK,OPEN CENTRE TEARDROP-SPOKED ASTERISK",
    "HEAVY TEARDROP-SPOKED ASTERISK,SIX PETALLED BLACK AND WHITE FLORETTE,BLACK FLORETTE",
    "WHITE FLORETTE,EIGHT PETALLED OUTLINED BLACK FLORETTE",
    "CIRCLED OPEN CENTRE EIGHT POINTED STAR,HEAVY TEARDROP-SPOKED PINWHEEL ASTERISK,SNOWFLAKE",
    "TIGHT TRIFOLIATE SNOWFLAKE,HEAVY CHEVRON SNOWFLAKE,SPARKLE,HEAVY SPARKLE",
    "BALLOON-SPOKED ASTERISK,EIGHT TEARDROP-SPOKED PROPELLER ASTERISK",
    "HEAVY EIGHT TEARDROP-SPOKED PROPELLER ASTERISK,CROSS MARK,SHADOWED WHITE CIRCLE",
    "NEGATIVE SQUARED CROSS MARK,LOWER RIGHT DROP-SHADOWED WHITE SQUARE",
    "UPPER RIGHT DROP-SHADOWED WHITE SQUARE,LOWER RIGHT SHADOWED WHITE SQUARE",
    "UPPER RIGHT SHADOWED WHITE SQUARE,BLACK QUESTION MARK ORNAMENT,WHITE QUESTION MARK ORNAMENT",
    "WHITE EXCLAMATION MARK ORNAMENT,BLACK DIAMOND MINUS WHITE X,HEAVY EXCLAMATION MARK SYMBOL",
    "LIGHT VERTICAL BAR,MEDIUM VERTICAL BAR"]⟩,
  ⟨10074, 1, "HEAVY", ["VERTICAL BAR,SINGLE TURNED COMMA QUOTATION MARK ORNAMENT",
    "SINGLE COMMA QUOTATION MARK ORNAMENT,DOUBLE TURNED COMMA QUOTATION MARK ORNAMENT",
    "DOUBLE COMMA QUOTATION MARK ORNAMENT,LOW SINGLE COMMA QUOTATION MARK ORNAMENT",
    "LOW DOUBLE COMMA QUOTATION MARK ORNAMENT"]⟩,
  ⟨10081, 1, "", ["CURVED STEM PARAGRAPH SIGN ORNAMENT,HEAVY EXCLAMATION MARK ORNAMENT",
    "HEAVY HEART EXCLAMATION MARK ORNAMENT,HEAVY BLACK HEART,ROTATED HEAVY BLACK HEART BULLET",
    "FLORAL HEART,ROTATED FLORAL HEART BULLET"]⟩,
  ⟨10088, 1, "MEDIUM", ["LEFT PARENTHESIS ORNAMENT,RIGHT PARENTHESIS ORNAMENT",
    "FLATTENED LEFT PARENTHESIS ORNAMENT,FLATTENED RIGHT PARENTHESIS ORNAMENT",
    "LEFT-POINTING ANGLE BRACKET ORNAMENT,RIGHT-POINTING ANGLE BRACKET ORNAMENT"]⟩,
  ⟨10094, 1, "HEAVY", ["LEFT-POINTING ANGLE QUOTATION MARK ORNAMENT",
    "RIGHT-POINTING ANGLE QUOTATION MARK ORNAMENT,LEFT-POINTING ANGLE BRACKET ORNAMENT",
    "RIGHT-POINTING ANGLE BRACKET ORNAMENT"]⟩,
  ⟨10098, 1, "LIGHT", ["LEFT TORTOISE SHELL BRACKET ORNAMENT",
    "RIGHT TORTOISE SHELL BRACKET ORNAMENT"]⟩,
  ⟨10100, 1, "MEDIUM", ["LEFT CURLY BRACKET ORNAMENT,RIGHT CURLY BRACKET ORNAMENT"]⟩,
  ⟨10102, 1, "DINGBAT NEGATIVE CIRCLED DIGIT", ["ONE,TWO,THREE,FOUR,FIVE,SIX,SEVEN,EIGHT,NINE"]⟩,
  ⟨10111, 1, "DINGBAT", ["NEGATIVE CIRCLED NUMBER TEN"]⟩,
  ⟨10112, 1, "DINGBAT CIRCLED SANS-SERIF DIGIT", ["ONE,TWO,THREE,FOUR,FIVE,SIX,SEVEN,EIGHT,NINE"]⟩,
  ⟨10121, 1, "DINGBAT", ["CIRCLED SANS-SERIF NUMBER TEN"]⟩,
  ⟨10122, 1, "DINGBAT NEGATIVE CIRCLED SANS-SERIF", ["DIGIT ONE,DIGIT TWO,DIGIT THREE,DIGIT FOUR",
    "DIGIT FIVE,DIGIT SIX,DIGIT SEVEN,DIGIT EIGHT,DIGIT NINE,NUMBER TEN"]⟩,
  ⟨10132, 1, "HEAVY", ["WIDE-HEADED RIGHTWARDS ARROW,PLUS SIGN,MINUS SIGN,DIVISION SIGN",
    "SOUTH EAST ARROW,RIGHTWARDS ARROW,NORTH EAST ARROW"]⟩,
  ⟨10139, 1, "", ["DRAFTING POINT RIGHTWARDS ARROW,HEAVY ROUND-TIPPED RIGHTWARDS ARROW",
    "TRIANGLE-HEADED RIGHTWARDS ARROW,HEAVY TRIANGLE-HEADED RIGHTWARDS ARROW",
    "DASHED TRIANGLE-HEADED RIGHTWARDS ARROW,HEAVY DASHED TRIANGLE-HEADED RIGHTWARDS ARROW",
    "BLACK RIGHTWARDS ARROW,THREE-D TOP-LIGHTED RIGHTWARDS ARROWHEAD",
    "THREE-D BOTTOM-LIGHTED RIGHTWARDS ARROWHEAD,BLACK RIGHTWARDS ARROWHEAD",
    "HEAVY BLACK CURVED DOWNWARDS AND RIGHTWARDS ARROW",
    "HEAVY BLACK CURVED UPWARDS AND RIGHTWARDS ARROW,SQUAT BLACK RIGHTWARDS ARROW",
    "HEAVY CONCAVE-POINTED BLACK RIGHTWARDS ARROW,RIGHT-SHADED WHITE RIGHTWARDS ARROW",
    "LEFT-SHADED WHITE RIGHTWARDS ARROW,BACK-TILTED SHADOWED WHITE RIGHTWARDS ARROW",
    "FRONT-TILTED SHADOWED WHITE RIGHTWARDS ARROW",
    "HEAVY LOWER RIGHT-SHADOWED WHITE RIGHTWARDS ARROW",
    "HEAVY UPPER RIGHT-SHADOWED WHITE RIGHTWARDS ARROW",
    "NOTCHED LOWER RIGHT-SHADOWED WHITE RIGHTWARDS ARROW,CURLY LOOP",
    "NOTCHED UPPER RIGHT-SHADOWED WHITE RIGHTWARDS ARROW,CIRCLED HEAVY WHITE RIGHTWARDS ARROW",
    "WHITE-FEATHERED RIGHTWARDS ARROW"]⟩,
  ⟨10164, 1, "BLACK-FEATHERED", ["SOUTH EAST ARROW,RIGHTWARDS ARROW,NORTH EAST ARROW"]⟩,
  ⟨10167, 1, "HEAVY BLACK-FEATHERED", ["SOUTH EAST ARROW,RIGHTWARDS ARROW,NORTH EAST ARROW"]⟩,
  ⟨10170, 1, "", ["TEARDROP-BARBED RIGHTWARDS ARROW,HEAVY TEARDROP-SHANKED RIGHTWARDS ARROW",
    "WEDGE-TAILED RIGHTWARDS ARROW,HEAVY WEDGE-TAILED RIGHTWARDS ARROW",
    "OPEN-OUTLINED RIGHTWARDS ARROW,DOUBLE CURLY LOOP"]⟩,
  ⟨10214, 1, "MATHEMATICAL", ["LEFT WHITE SQUARE BRACKET,RIGHT WHITE SQUARE BRACKET",
    "LEFT ANGLE BRACKET,RIGHT ANGLE BRACKET,LEFT DOUBLE ANGLE BRACKET,RIGHT DOUBLE ANGLE BRACKET"]⟩,
  ⟨10224, 1, "", ["UPWARDS QUADRUPLE ARROW,DOWNWARDS QUADRUPLE ARROW",
    "ANTICLOCKWISE GAPPED CIRCLE ARROW,CLOCKWISE GAPPED CIRCLE ARROW",
    "RIGHT ARROW WITH CIRCLED PLUS"]⟩,
  ⟨10229, 1, "LONG", ["LEFTWARDS ARROW,RIGHTWARDS ARROW,LEFT RIGHT ARROW,LEFTWARDS DOUBLE ARROW",
    "RIGHTWARDS DOUBLE ARROW,LEFT RIGHT DOUBLE ARROW,LEFTWARDS ARROW FROM BAR",
    "RIGHTWARDS ARROW FROM BAR,LEFTWARDS DOUBLE ARROW FROM BAR,RIGHTWARDS DOUBLE ARROW FROM BAR",
    "RIGHTWARDS SQUIGGLE ARROW"]⟩,
  ⟨10496, 1, "RIGHTWARDS TWO-HEADED ARROW WITH", ["VERTICAL STROKE,DOUBLE VERTICAL STROKE"]⟩,
  ⟨10498, 1, "", ["LEFTWARDS DOUBLE ARROW WITH VERTICAL STROKE",
    "RIGHTWARDS DOUBLE ARROW WITH VERTICAL STROKE,LEFT RIGHT DOUBLE ARROW WITH VERTICAL STROKE",
    "RIGHTWARDS TWO-HEADED ARROW FROM BAR,LEFTWARDS DOUBLE ARROW FROM BAR",
    "RIGHTWARDS DOUBLE ARROW FROM BAR,DOWNWARDS ARROW WITH HORIZONTAL STROKE",
    "UPWARDS ARROW WITH HORIZONTAL STROKE,UPWARDS TRIPLE ARROW,DOWNWARDS TRIPLE ARROW",
    "LEFTWARDS DOUBLE DASH ARROW,RIGHTWARDS DOUBLE DASH ARROW,LEFTWARDS TRIPLE DASH ARROW",
    "RIGHTWARDS TRIPLE DASH ARROW,RIGHTWARDS TWO-HEADED TRIPLE DASH ARROW",
    "RIGHTWARDS ARROW WITH DOTTED STEM,UPWARDS ARROW TO BAR,DOWNWARDS ARROW TO BAR"]⟩,
  ⟨10516, 1, "RIGHTWARDS ARROW WITH TAIL WITH", ["VERTICAL STROKE,DOUBLE VERTICAL STROKE"]⟩,
  ⟨10518, 1, "RIGHTWARDS TWO-HEADED ARROW WITH", ["TAIL,TAIL WITH VERTICAL STROKE",
    "TAIL WITH DOUBLE VERTICAL STROKE"]⟩,
  ⟨10521, 1, "", ["LEFTWARDS ARROW-TAIL,RIGHTWARDS ARROW-TAIL,LEFTWARDS DOUBLE ARROW-TAIL",
    "RIGHTWARDS DOUBLE ARROW-TAIL,LEFTWARDS ARROW TO BLACK DIAMOND",
    "RIGHTWARDS ARROW TO BLACK DIAMOND,LEFTWARDS ARROW FROM BAR TO BLACK DIAMOND",
    "RIGHTWARDS ARROW FROM BAR TO BLACK DIAMOND,NORTH WEST AND SOUTH EAST ARROW",
    "NORTH EAST AND SOUTH WEST ARROW,NORTH WEST ARROW WITH HOOK,NORTH EAST ARROW WITH HOOK",
    "SOUTH EAST ARROW WITH HOOK,SOUTH WEST ARROW WITH HOOK,NORTH WEST ARROW AND NORTH EAST ARROW",
    "NORTH EAST ARROW AND SOUTH EAST ARROW,SOUTH EAST ARROW AND SOUTH WEST ARROW",
    "SOUTH WEST ARROW AND NORTH WEST ARROW,RISING DIAGONAL CROSSING FALLING DIAGONAL",
    "FALLING DIAGONAL CROSSING RISING DIAGONAL,SOUTH EAST ARROW CROSSING NORTH EAST ARROW",
    "NORTH EAST ARROW CROSSING SOUTH EAST ARROW,FALLING DIAGONAL CROSSING NORTH EAST ARROW",
    "RISING DIAGONAL CROSSING SOUTH EAST ARROW,NORTH EAST ARROW CROSSING NORTH WEST ARROW",
    "NORTH WEST ARROW CROSSING NORTH EAST ARROW,WAVE ARROW POINTING DIRECTLY RIGHT"]⟩,
  ⟨10548, 1, "ARROW POINTING RIGHTWARDS THEN CURVING", ["UPWARDS,DOWNWARDS"]⟩,
  ⟨10550, 1, "ARROW POINTING DOWNWARDS THEN CURVING", ["LEFTWARDS,RIGHTWARDS"]⟩,
  ⟨10552, 1, "", ["RIGHT-SIDE ARC CLOCKWISE ARROW,LEFT-SIDE ARC ANTICLOCKWISE ARROW",
    "TOP ARC ANTICLOCKWISE ARROW,BOTTOM ARC ANTICLOCKWISE ARROW",
    "TOP ARC CLOCKWISE ARROW WITH MINUS,TOP ARC ANTICLOCKWISE ARROW WITH PLUS",
    "LOWER RIGHT SEMICIRCULAR CLOCKWISE ARROW,LOWER LEFT SEMICIRCULAR ANTICLOCKWISE ARROW",
    "ANTICLOCKWISE CLOSED CIRCLE ARROW,CLOCKWISE CLOSED CIRCLE ARROW",
    "RIGHTWARDS ARROW ABOVE SHORT LEFTWARDS ARROW,LEFTWARDS ARROW ABOVE SHORT RIGHTWARDS ARROW",
    "SHORT RIGHTWARDS ARROW ABOVE LEFTWARDS ARROW,RIGHTWARDS ARROW WITH PLUS BELOW",
    "LEFTWARDS ARROW WITH PLUS BELOW,RIGHTWARDS ARROW THROUGH X",
    "LEFT RIGHT ARROW THROUGH SMALL CIRCLE,UPWARDS TWO-HEADED ARROW FROM SMALL CIRCLE",
    "LEFT BARB UP RIGHT BARB DOWN HARPOON,LEFT BARB DOWN RIGHT BARB UP HARPOON",
    "UP BARB RIGHT DOWN BARB LEFT HARPOON,UP BARB LEFT DOWN BARB RIGHT HARPOON",
    "LEFT BARB UP RIGHT BARB UP HARPOON,UP BARB RIGHT DOWN BARB RIGHT HARPOON",
    "LEFT BARB DOWN RIGHT BARB DOWN HARPOON,UP BARB LEFT DOWN BARB LEFT HARPOON",
    "LEFTWARDS HARPOON WITH BARB UP TO BAR,RIGHTWARDS HARPOON WITH BARB UP TO BAR",
    "UPWARDS HARPOON WITH BARB RIGHT TO BAR,DOWNWARDS HARPOON WITH BARB RIGHT TO BAR",
    "LEFTWARDS HARPOON WITH BARB DOWN TO BAR,RIGHTWARDS HARPOON WITH BARB DOWN TO BAR",
    "UPWARDS HARPOON WITH BARB LEFT TO BAR,DOWNWARDS HARPOON WITH BARB LEFT TO BAR",
    "LEFTWARDS HARPOON WITH BARB UP FROM BAR,RIGHTWARDS HARPOON WITH BARB UP FROM BAR",
    "UPWARDS HARPOON WITH BARB RIGHT FROM BAR,DOWNWARDS HARPOON WITH BARB RIGHT FROM BAR",
    "LEFTWARDS HARPOON WITH BARB DOWN FROM BAR,RIGHTWARDS HARPOON WITH BARB DOWN FROM BAR",
    "UPWARDS HARPOON WITH BARB LEFT FROM BAR,DOWNWARDS HARPOON WITH BARB LEFT FROM BAR",
    "LEFTWARDS HARPOON WITH BARB UP ABOVE LEFTWARDS HARPOON WITH BARB DOWN",
    "UPWARDS HARPOON WITH BARB LEFT BESIDE UPWARDS HARPOON WITH BARB RIGHT",
    "RIGHTWARDS HARPOON WITH BARB UP ABOVE RIGHTWARDS HARPOON WITH BARB DOWN",
    "DOWNWARDS HARPOON WITH BARB LEFT BESIDE DOWNWARDS HARPOON WITH BARB RIGHT"]⟩,
  ⟨10598, 1, "LEFTWARDS HARPOON WITH BARB", ["UP ABOVE RIGHTWARDS HARPOON WITH BARB UP",
    "DOWN ABOVE RIGHTWARDS HARPOON WITH BARB DOWN"]⟩,
  ⟨10600, 1, "RIGHTWARDS HARPOON WITH BARB", ["UP ABOVE LEFTWARDS HARPOON WITH BARB UP",
    "DOWN ABOVE LEFTWARDS HARPOON WITH BARB DOWN"]⟩,
  ⟨10602, 1, "LEFTWARDS HARPOON WITH BARB", ["UP ABOVE LONG DASH,DOWN BELOW LONG DASH"]⟩,
  ⟨10604, 1, "RIGHTWARDS HARPOON WITH BARB", ["UP ABOVE LONG DASH,DOWN BELOW LONG DASH"]⟩,
  ⟨10606, 1, "", ["UPWARDS HARPOON WITH BARB LEFT BESIDE DOWNWARDS HARPOON WITH BARB RIGHT",
    "DOWNWARDS HARPOON WITH BARB LEFT BESIDE UPWARDS HARPOON WITH BARB RIGHT",
    "RIGHT DOUBLE ARROW WITH ROUNDED HEAD,EQUALS SIGN ABOVE RIGHTWARDS ARROW",
    "TILDE OPERATOR ABOVE RIGHTWARDS ARROW,LEFTWARDS ARROW ABOVE TILDE OPERATOR",
    "RIGHTWARDS ARROW ABOVE TILDE OPERATOR,RIGHTWARDS ARROW ABOVE ALMOST EQUAL TO",
    "LESS-THAN ABOVE LEFTWARDS ARROW,LEFTWARDS ARROW THROUGH LESS-THAN",
    "GREATER-THAN ABOVE RIGHTWARDS ARROW,SUBSET ABOVE RIGHTWARDS ARROW",
    "LEFTWARDS ARROW THROUGH SUBSET,SUPERSET ABOVE LEFTWARDS ARROW,LEFT FISH TAIL",
    "RIGHT FISH TAIL,UP FISH TAIL,DOWN FISH TAIL"]⟩,
  ⟨10752, 1, "N-ARY CIRCLED", ["DOT OPERATOR,PLUS OPERATOR,TIMES OPERATOR"]⟩,
  ⟨10755, 1, "N-ARY UNION OPERATOR WITH", ["DOT,PLUS"]⟩,
  ⟨10757, 1, "", ["N-ARY SQUARE INTERSECTION OPERATOR,N-ARY SQUARE UNION OPERATOR",
    "TWO LOGICAL AND OPERATOR,TWO LOGICAL OR OPERATOR,N-ARY TIMES OPERATOR,MODULO TWO SUM",
    "SUMMATION WITH INTEGRAL,QUADRUPLE INTEGRAL OPERATOR,FINITE PART INTEGRAL",
    "INTEGRAL WITH DOUBLE STROKE,INTEGRAL AVERAGE WITH SLASH,CIRCULATION FUNCTION",
    "ANTICLOCKWISE INTEGRATION"]⟩,
  ⟨10770, 1, "LINE INTEGRATION", ["WITH RECTANGULAR PATH AROUND POLE",
    "WITH SEMICIRCULAR PATH AROUND POLE,NOT INCLUDING THE POLE"]⟩,
  ⟨10773, 1, "", ["INTEGRAL AROUND A POINT OPERATOR,QUATERNION INTEGRAL OPERATOR"]⟩,
  ⟨10775, 1, "INTEGRAL WITH", ["LEFTWARDS ARROW WITH HOOK,TIMES SIGN,INTERSECTION,UNION,OVERBAR",
    "UNDERBAR"]⟩,
  ⟨10781, 1, "", ["JOIN,LARGE LEFT TRIANGLE OPERATOR"]⟩,
  ⟨10783, 1, "Z NOTATION SCHEMA", ["COMPOSITION,PIPING,PROJECTION"]⟩,
  ⟨10786, 1, "PLUS SIGN WITH", ["SMALL CIRCLE ABOVE,CIRCUMFLEX ACCENT ABOVE,TILDE ABOVE",
    "DOT BELOW,TILDE BELOW,SUBSCRIPT TWO,BLACK TRIANGLE"]⟩,
  ⟨10793, 1, "MINUS SIGN WITH", ["COMMA ABOVE,DOT BELOW,FALLING DOTS,RISING DOTS"]⟩,
  ⟨10797, 1, "", ["PLUS SIGN IN LEFT HALF CIRCLE,PLUS SIGN IN RIGHT HALF CIRCLE",
    "VECTOR OR CROSS PRODUCT,MULTIPLICATION SIGN WITH DOT ABOVE",
    "MULTIPLICATION SIGN WITH UNDERBAR,SEMIDIRECT PRODUCT WITH BOTTOM CLOSED,SMASH PRODUCT",
    "MULTIPLICATION SIGN IN LEFT HALF CIRCLE,MULTIPLICATION SIGN IN RIGHT HALF CIRCLE",
    "CIRCLED MULTIPLICATION SIGN WITH CIRCUMFLEX ACCENT,MULTIPLICATION SIGN IN DOUBLE CIRCLE",
    "CIRCLED DIVISION SIGN,PLUS SIGN IN TRIANGLE,MINUS SIGN IN TRIANGLE",
    "MULTIPLICATION SIGN IN TRIANGLE,INTERIOR PRODUCT,RIGHTHAND INTERIOR PRODUCT",
    "Z NOTATION RELATIONAL COMPOSITION,AMALGAMATION OR COPRODUCT,INTERSECTION WITH DOT",
    "UNION WITH MINUS SIGN,UNION WITH OVERBAR,INTERSECTION WITH OVERBAR",
    "INTERSECTION WITH LOGICAL AND,UNION WITH LOGICAL OR,UNION ABOVE INTERSECTION",
    "INTERSECTION ABOVE UNION,UNION ABOVE BAR ABOVE INTERSECTION",
    "INTERSECTION ABOVE BAR ABOVE UNION,UNION BESIDE AND JOINED WITH UNION",
    "INTERSECTION BESIDE AND JOINED WITH INTERSECTION,CLOSED UNION WITH SERIFS",
    "CLOSED INTERSECTION WITH SERIFS,DOUBLE SQUARE INTERSECTION,DOUBLE SQUARE UNION",
    "CLOSED UNION WITH SERIFS AND SMASH PRODUCT,LOGICAL AND WITH DOT ABOVE",
    "LOGICAL OR WITH DOT ABOVE"]⟩,
  ⟨10835, 1, "DOUBLE LOGICAL", ["AND,OR"]⟩,
  ⟨10837, 1, "TWO INTERSECTING LOGICAL", ["AND,OR"]⟩,
  ⟨10839, 1, "SLOPING LARGE", ["OR,AND"]⟩,
  ⟨10841, 1, "LOGICAL", ["OR OVERLAPPING LOGICAL AND,AND WITH MIDDLE STEM,OR WITH MIDDLE STEM",
    "AND WITH HORIZONTAL DASH,OR WITH HORIZONTAL DASH,AND WITH DOUBLE OVERBAR,AND WITH UNDERBAR",
    "AND WITH DOUBLE UNDERBAR"]⟩,
  ⟨10849, 1, "", ["SMALL VEE WITH UNDERBAR,LOGICAL OR WITH DOUBLE OVERBAR",
    "LOGICAL OR WITH DOUBLE UNDERBAR,Z NOTATION DOMAIN ANTIRESTRICTION",
    "Z NOTATION RANGE ANTIRESTRICTION,EQUALS SIGN WITH DOT BELOW,IDENTICAL WITH DOT ABOVE"]⟩,
  ⟨10856, 1, "TRIPLE HORIZONTAL BAR WITH", ["DOUBLE VERTICAL STROKE,TRIPLE VERTICAL STROKE"]⟩,
  ⟨10858, 1, "TILDE OPERATOR WITH", ["DOT ABOVE,RISING DOTS"]⟩,
  ⟨10860, 1, "", ["SIMILAR MINUS SIMILAR,CONGRUENT WITH DOT ABOVE,EQUALS WITH ASTERISK",
    "ALMOST EQUAL TO WITH CIRCUMFLEX ACCENT,APPROXIMATELY EQUAL OR EQUAL TO",
    "EQUALS SIGN ABOVE PLUS SIGN,PLUS SIGN ABOVE EQUALS SIGN,EQUALS SIGN ABOVE TILDE OPERATOR",
    "DOUBLE COLON EQUAL,TWO CONSECUTIVE EQUALS SIGNS,THREE CONSECUTIVE EQUALS SIGNS",
    "EQUALS SIGN WITH TWO DOTS ABOVE AND TWO DOTS BELOW,EQUIVALENT WITH FOUR DOTS ABOVE",
    "LESS-THAN WITH CIRCLE INSIDE,GREATER-THAN WITH CIRCLE INSIDE",
    "LESS-THAN WITH QUESTION MARK ABOVE,GREATER-THAN WITH QUESTION MARK ABOVE",
    "LESS-THAN OR SLANTED EQUAL TO,GREATER-THAN OR SLANTED EQUAL TO",
    "LESS-THAN OR SLANTED EQUAL TO WITH DOT INSIDE",
    "GREATER-THAN OR SLANTED EQUAL TO WITH DOT INSIDE",
    "LESS-THAN OR SLANTED EQUAL TO WITH DOT ABOVE",
    "GREATER-THAN OR SLANTED EQUAL TO WITH DOT ABOVE",
    "LESS-THAN OR SLANTED EQUAL TO WITH DOT ABOVE RIGHT",
    "GREATER-THAN OR SLANTED EQUAL TO WITH DOT ABOVE LEFT,LESS-THAN OR APPROXIMATE",
    "GREATER-THAN OR APPROXIMATE,LESS-THAN AND SINGLE-LINE NOT EQUAL TO",
    "GREATER-THAN AND SINGLE-LINE NOT EQUAL TO,LESS-THAN AND NOT APPROXIMATE",
    "GREATER-THAN AND NOT APPROXIMATE,LESS-THAN ABOVE DOUBLE-LINE EQUAL ABOVE GREATER-THAN",
    "GREATER-THAN ABOVE DOUBLE-LINE EQUAL ABOVE LESS-THAN,LESS-THAN ABOVE SIMILAR OR EQUAL",
    "GREATER-THAN ABOVE SIMILAR OR EQUAL,LESS-THAN ABOVE SIMILAR ABOVE GREATER-THAN",
    "GREATER-THAN ABOVE SIMILAR ABOVE LESS-THAN",
    "LESS-THAN ABOVE GREATER-THAN ABOVE DOUBLE-LINE EQUAL",
    "GREATER-THAN ABOVE LESS-THAN ABOVE DOUBLE-LINE EQUAL",
    "LESS-THAN ABOVE SLANTED EQUAL ABOVE GREATER-THAN ABOVE SLANTED EQUAL",
    "GREATER-THAN ABOVE SLANTED EQUAL ABOVE LESS-THAN ABOVE SLANTED EQUAL"]⟩,
  ⟨10901, 1, "SLANTED EQUAL TO OR", ["LESS-THAN,GREATER-THAN,LESS-THAN WITH DOT INSIDE",
    "GREATER-THAN WITH DOT INSIDE"]⟩,
  ⟨10905, 1, "DOUBLE-LINE EQUAL TO OR", ["LESS-THAN,GREATER-THAN"]⟩,
  ⟨10907, 1, "DOUBLE-LINE SLANTED EQUAL TO OR", ["LESS-THAN,GREATER-THAN"]⟩,
  ⟨10909, 1, "SIMILAR", ["OR LESS-THAN,OR GREATER-THAN,ABOVE LESS-THAN ABOVE EQUALS SIGN",
    "ABOVE GREATER-THAN ABOVE EQUALS SIGN"]⟩,
  ⟨10913, 1, "DOUBLE NESTED", ["LESS-THAN,GREATER-THAN,LESS-THAN WITH UNDERBAR"]⟩,
  ⟨10916, 1, "", ["GREATER-THAN OVERLAPPING LESS-THAN,GREATER-THAN BESIDE LESS-THAN",
    "LESS-THAN CLOSED BY CURVE,GREATER-THAN CLOSED BY CURVE",
    "LESS-THAN CLOSED BY CURVE ABOVE SLANTED EQUAL",
    "GREATER-THAN CLOSED BY CURVE ABOVE SLANTED EQUAL,SMALLER THAN,LARGER THAN",
    "SMALLER THAN OR EQUAL TO,LARGER THAN OR EQUAL TO,EQUALS SIGN WITH BUMPY ABOVE",
    "PRECEDES ABOVE SINGLE-LINE EQUALS SIGN,SUCCEEDS ABOVE SINGLE-LINE EQUALS SIGN",
    "PRECEDES ABOVE SINGLE-LINE NOT EQUAL TO,SUCCEEDS ABOVE SINGLE-LINE NOT EQUAL TO",
    "PRECEDES ABOVE EQUALS SIGN,SUCCEEDS ABOVE EQUALS SIGN,PRECEDES ABOVE NOT EQUAL TO",
    "SUCCEEDS ABOVE NOT EQUAL TO,PRECEDES ABOVE ALMOST EQUAL TO,SUCCEEDS ABOVE ALMOST EQUAL TO",
    "PRECEDES ABOVE NOT ALMOST EQUAL TO,SUCCEEDS ABOVE NOT ALMOST EQUAL TO,DOUBLE PRECEDES",
    "DOUBLE SUCCEEDS,SUBSET WITH DOT,SUPERSET WITH DOT,SUBSET WITH PLUS SIGN BELOW",
    "SUPERSET WITH PLUS SIGN BELOW,SUBSET WITH MULTIPLICATION SIGN BELOW",
    "SUPERSET WITH MULTIPLICATION SIGN BELOW,SUBSET OF OR EQUAL TO WITH DOT ABOVE",
    "SUPERSET OF OR EQUAL TO WITH DOT ABOVE,SUBSET OF ABOVE EQUALS SIGN",
    "SUPERSET OF ABOVE EQUALS SIGN,SUBSET OF ABOVE TILDE OPERATOR",
    "SUPERSET OF ABOVE TILDE OPERATOR,SUBSET OF ABOVE ALMOST EQUAL TO",
    "SUPERSET OF ABOVE ALMOST EQUAL TO,SUBSET OF ABOVE NOT EQUAL TO",
    "SUPERSET OF ABOVE NOT EQUAL TO,SQUARE LEFT OPEN BOX OPERATOR,SQUARE RIGHT OPEN BOX OPERATOR",
    "CLOSED SUBSET,CLOSED SUPERSET,CLOSED SUBSET OR EQUAL TO,CLOSED SUPERSET OR EQUAL TO",
    "SUBSET ABOVE SUPERSET,SUPERSET ABOVE SUBSET,SUBSET ABOVE SUBSET,SUPERSET ABOVE SUPERSET",
    "SUPERSET BESIDE SUBSET,SUPERSET BESIDE AND JOINED BY DASH WITH SUBSET",
    "ELEMENT OF OPENING DOWNWARDS,PITCHFORK WITH TEE TOP,TRANSVERSAL INTERSECTION,FORKING",
    "NONFORKING,SHORT LEFT TACK,SHORT DOWN TACK,SHORT UP TACK,PERPENDICULAR WITH S",
    "VERTICAL BAR TRIPLE RIGHT TURNSTILE,DOUBLE VERTICAL BAR LEFT TURNSTILE",
    "VERTICAL BAR DOUBLE LEFT TURNSTILE,DOUBLE VERTICAL BAR DOUBLE LEFT TURNSTILE",
    "LONG DASH FROM LEFT MEMBER OF DOUBLE VERTICAL,SHORT DOWN TACK WITH OVERBAR",
    "SHORT UP TACK WITH UNDERBAR,SHORT UP TACK ABOVE SHORT DOWN TACK,DOUBLE DOWN TACK",
    "DOUBLE UP TACK,DOUBLE STROKE NOT SIGN,REVERSED DOUBLE STROKE NOT SIGN",
    "DOES NOT DIVIDE WITH REVERSED NEGATION SLASH,VERTICAL LINE WITH CIRCLE ABOVE",
    "VERTICAL LINE WITH CIRCLE BELOW,DOWN TACK WITH CIRCLE BELOW"]⟩,
  ⟨10994, 1, "PARALLEL WITH", ["HORIZONTAL STROKE,TILDE OPERATOR"]⟩,
  ⟨10996, 1, "TRIPLE", ["VERTICAL BAR BINARY RELATION,VERTICAL BAR WITH HORIZONTAL STROKE",
    "COLON OPERATOR,NESTED LESS-THAN,NESTED GREATER-THAN"]⟩,
  ⟨11001, 1, "DOUBLE-LINE SLANTED", ["LESS-THAN OR EQUAL TO,GREATER-THAN OR EQUAL TO"]⟩,
  ⟨11003, 1, "", ["TRIPLE SOLIDUS BINARY RELATION,LARGE TRIPLE VERTICAL BAR OPERATOR",
    "DOUBLE SOLIDUS OPERATOR,WHITE VERTICAL BAR,N-ARY WHITE VERTICAL BAR,NORTH EAST WHITE ARROW",
    "NORTH WEST WHITE ARROW,SOUTH EAST WHITE ARROW,SOUTH WEST WHITE ARROW,LEFT RIGHT WHITE ARROW",
    "LEFTWARDS BLACK ARROW,UPWARDS BLACK ARROW,DOWNWARDS BLACK ARROW,NORTH EAST BLACK ARROW",
    "NORTH WEST BLACK ARROW,SOUTH EAST BLACK ARROW,SOUTH WEST BLACK ARROW,LEFT RIGHT BLACK ARROW",
    "UP DOWN BLACK ARROW"]⟩,
  ⟨11022, 1, "RIGHTWARDS ARROW WITH TIP", ["DOWNWARDS,UPWARDS"]⟩,
  ⟨11024, 1, "LEFTWARDS ARROW WITH TIP", ["DOWNWARDS,UPWARDS"]⟩,
  ⟨11026, 1, "SQUARE WITH", ["TOP HALF BLACK,BOTTOM HALF BLACK,UPPER RIGHT DIAGONAL HALF BLACK",
    "LOWER LEFT DIAGONAL HALF BLACK"]⟩,
  ⟨11030, 1, "DIAMOND WITH", ["LEFT HALF BLACK,RIGHT HALF BLACK,TOP HALF BLACK,BOTTOM HALF BLACK"]⟩,
  ⟨11034, 1, "", ["DOTTED SQUARE,BLACK LARGE SQUARE,WHITE LARGE SQUARE,BLACK VERY SMALL SQUARE",
    "WHITE VERY SMALL SQUARE,BLACK PENTAGON,WHITE PENTAGON,WHITE HEXAGON,BLACK HEXAGON",
    "HORIZONTAL BLACK HEXAGON,BLACK LARGE CIRCLE,BLACK MEDIUM DIAMOND,WHITE MEDIUM DIAMOND",
    "BLACK MEDIUM LOZENGE,WHITE MEDIUM LOZENGE,BLACK SMALL DIAMOND,BLACK SMALL LOZENGE",
    "WHITE SMALL LOZENGE,BLACK HORIZONTAL ELLIPSE,WHITE HORIZONTAL ELLIPSE",
    "BLACK VERTICAL ELLIPSE,WHITE VERTICAL ELLIPSE,LEFT ARROW WITH SMALL CIRCLE",
    "THREE LEFTWARDS ARROWS,LEFT ARROW WITH CIRCLED PLUS,LONG LEFTWARDS SQUIGGLE ARROW"]⟩,
  ⟨11060, 1, "LEFTWARDS TWO-HEADED", ["ARROW WITH VERTICAL STROKE",
    "ARROW WITH DOUBLE VERTICAL STROKE,ARROW FROM BAR,TRIPLE DASH ARROW"]⟩,
  ⟨11064, 1, "LEFTWARDS ARROW WITH", ["DOTTED STEM,TAIL WITH VERTICAL STROKE",
    "TAIL WITH DOUBLE VERTICAL STROKE"]⟩,
  ⟨11067, 1, "LEFTWARDS TWO-HEADED ARROW WITH", ["TAIL,TAIL WITH VERTICAL STROKE",
    "TAIL WITH DOUBLE VERTICAL STROKE"]⟩,
  ⟨11070, 1, "", ["LEFTWARDS ARROW THROUGH X,WAVE ARROW POINTING DIRECTLY LEFT",
    "EQUALS SIGN ABOVE LEFTWARDS ARROW,REVERSE TILDE OPERATOR ABOVE LEFTWARDS ARROW",
    "LEFTWARDS ARROW ABOVE REVERSE ALMOST EQUAL TO,RIGHTWARDS ARROW THROUGH GREATER-THAN",
    "RIGHTWARDS ARROW THROUGH SUPERSET,LEFTWARDS QUADRUPLE ARROW,RIGHTWARDS QUADRUPLE ARROW",
    "REVERSE TILDE OPERATOR ABOVE RIGHTWARDS ARROW",
    "RIGHTWARDS ARROW ABOVE REVERSE ALMOST EQUAL TO,TILDE OPERATOR ABOVE LEFTWARDS ARROW",
    "LEFTWARDS ARROW ABOVE ALMOST EQUAL TO,LEFTWARDS ARROW ABOVE REVERSE TILDE OPERATOR",
    "RIGHTWARDS ARROW ABOVE REVERSE TILDE OPERATOR,DOWNWARDS TRIANGLE-HEADED ZIGZAG ARROW",
    "SHORT SLANTED NORTH ARROW,SHORT BACKSLANTED SOUTH ARROW,WHITE MEDIUM STAR,BLACK SMALL STAR",
    "WHITE SMALL STAR,BLACK RIGHT-POINTING PENTAGON,WHITE RIGHT-POINTING PENTAGON"]⟩,
  ⟨11093, 1, "HEAVY", ["LARGE CIRCLE,OVAL WITH OVAL INSIDE,CIRCLE WITH CIRCLE INSIDE,CIRCLE",
    "CIRCLED SALTIRE"]⟩,
  ⟨11360, 1, "LATIN", ["CAPITAL LETTER L WITH DOUBLE BAR,SMALL LETTER L WITH DOUBLE BAR"]⟩,
  ⟨11362, 1, "LATIN CAPITAL LETTER", ["L WITH MIDDLE TILDE,P WITH STROKE,R WITH TAIL"]⟩,
  ⟨11365, 1, "LATIN SMALL LETTER", ["A WITH STROKE,T WITH DIAGONAL STROKE"]⟩,
  ⟨11367, 2, "LATIN CAPITAL LETTER", ["H WITH DESCENDER,K WITH DESCENDER,Z WITH DESCENDER"]⟩,
  ⟨11368, 2, "LATIN SMALL LETTER", ["H WITH DESCENDER,K WITH DESCENDER,Z WITH DESCENDER"]⟩,
  ⟨11373, 1, "LATIN CAPITAL LETTER", ["ALPHA,M WITH HOOK,TURNED A,TURNED ALPHA"]⟩,
  ⟨11377, 1, "LATIN", ["SMALL LETTER V WITH RIGHT HOOK,CAPITAL LETTER W WITH HOOK",
    "SMALL LETTER W WITH HOOK,SMALL LETTER V WITH CURL,CAPITAL LETTER HALF H"]⟩,
  ⟨11382, 1, "LATIN SMALL LETTER", ["HALF H,TAILLESS PHI,E WITH NOTCH,TURNED R WITH TAIL",
    "O WITH LOW RING INSIDE"]⟩,
  ⟨11387, 1, "", ["LATIN LETTER SMALL CAPITAL TURNED E,LATIN SUBSCRIPT SMALL LETTER J",
    "MODIFIER LETTER CAPITAL V"]⟩,
  ⟨11390, 1, "LATIN CAPITAL LETTER", ["S WITH SWASH TAIL,Z WITH SWASH TAIL"]⟩,
  ⟨12288, 1, "IDEOGRAPHIC", ["SPACE,COMMA,FULL STOP"]⟩,
  ⟨12291, 1, "", ["DITTO MARK,JAPANESE INDUSTRIAL STANDARD SYMBOL,IDEOGRAPHIC ITERATION MARK",
    "IDEOGRAPHIC CLOSING MARK,IDEOGRAPHIC NUMBER ZERO,LEFT ANGLE BRACKET,RIGHT ANGLE BRACKET",
    "LEFT DOUBLE ANGLE BRACKET,RIGHT DOUBLE ANGLE BRACKET,LEFT CORNER BRACKET",
    "RIGHT CORNER BRACKET,LEFT WHITE CORNER BRACKET,RIGHT WHITE CORNER BRACKET",
    "LEFT BLACK LENTICULAR BRACKET,RIGHT BLACK LENTICULAR BRACKET,POSTAL MARK,GETA MARK",
    "LEFT TORTOISE SHELL BRACKET,RIGHT TORTOISE SHELL BRACKET,LEFT WHITE LENTICULAR BRACKET",
    "RIGHT WHITE LENTICULAR BRACKET,LEFT WHITE TORTOISE SHELL BRACKET",
    "RIGHT WHITE TORTOISE SHELL BRACKET,LEFT WHITE SQUARE BRACKET,RIGHT WHITE SQUARE BRACKET",
    "WAVE DASH,REVERSED DOUBLE PRIME QUOTATION MARK,DOUBLE PRIME QUOTATION MARK",
    "LOW DOUBLE PRIME QUOTATION MARK,POSTAL MARK FACE"]⟩,
  ⟨12321, 1, "HANGZHOU NUMERAL", ["ONE,TWO,THREE,FOUR,FIVE,SIX,SEVEN,EIGHT,NINE"]⟩,
  ⟨12330, 1, "IDEOGRAPHIC", ["LEVEL TONE MARK,RISING TONE MARK,DEPARTING TONE MARK",
    "ENTERING TONE MARK"]⟩,
  ⟨12334, 1, "", ["HANGUL SINGLE DOT TONE MARK,HANGUL DOUBLE DOT TONE MARK,WAVY DASH"]⟩,
  ⟨12337, 1, "VERTICAL KANA REPEAT", ["MARK,WITH VOICED SOUND MARK,MARK UPPER HALF",
    "WITH VOICED SOUND MARK UPPER HALF,MARK LOWER HALF"]⟩,
  ⟨12342, 1, "", ["CIRCLED POSTAL MARK,IDEOGRAPHIC TELEGRAPH LINE FEED SEPARATOR SYMBOL"]⟩,
  ⟨12344, 1, "HANGZHOU NUMERAL", ["TEN,TWENTY,THIRTY"]⟩,
  ⟨12347, 1, "", ["VERTICAL IDEOGRAPHIC ITERATION MARK,MASU MARK,PART ALTERNATION MARK",
    "IDEOGRAPHIC VARIATION INDICATOR,IDEOGRAPHIC HALF FILL SPACE"]⟩,
  ⟨12353, 1, "HIRAGANA LETTER", ["SMALL A,A,SMALL I,I,SMALL U,U,SMALL E,E,SMALL O,O,KA,GA,KI,GI",
    "KU,GU,KE,GE,KO,GO,SA,ZA,SI,ZI,SU,ZU,SE,ZE,SO,ZO,TA,DA,TI,DI,SMALL TU,TU,DU,TE,DE,TO,DO,NA",
    "NI,NU,NE,NO,HA,BA,PA,HI,BI,PI,HU,BU,PU,HE,BE,PE,HO,BO,PO,MA,MI,MU,ME,MO,SMALL YA,YA",
    "SMALL YU,YU,SMALL YO,YO,RA,RI,RU,RE,RO,SMALL WA,WA,WI,WE,WO,N,VU,SMALL KA,SMALL KE"]⟩,
  ⟨12441, 1, "COMBINING KATAKANA-HIRAGANA", ["VOICED SOUND MARK,SEMI-VOICED SOUND MARK"]⟩,
  ⟨12443, 1, "KATAKANA-HIRAGANA", ["VOICED SOUND MARK,SEMI-VOICED SOUND MARK"]⟩,
  ⟨12445, 1, "HIRAGANA", ["ITERATION MARK,VOICED ITERATION MARK,DIGRAPH YORI"]⟩,
  ⟨12448, 1, "KATAKANA-HIRAGANA", ["DOUBLE HYPHEN"]⟩,
  ⟨12449, 1, "KATAKANA LETTER", ["SMALL A,A,SMALL I,I,SMALL U,U,SMALL E,E,SMALL O,O,KA,GA,KI,GI",
    "KU,GU,KE,GE,KO,GO,SA,ZA,SI,ZI,SU,ZU,SE,ZE,SO,ZO,TA,DA,TI,DI,SMALL TU,TU,DU,TE,DE,TO,DO,NA",
    "NI,NU,NE,NO,HA,BA,PA,HI,BI,PI,HU,BU,PU,HE,BE,PE,HO,BO,PO,MA,MI,MU,ME,MO,SMALL YA,YA",
    "SMALL YU,YU,SMALL YO,YO,RA,RI,RU,RE,RO,SMALL WA,WA,WI,WE,WO,N,VU,SMALL KA,SMALL KE,VA,VI,VE",
    "VO"]⟩,
  ⟨12539, 1, "", ["KATAKANA MIDDLE DOT,KATAKANA-HIRAGANA PROLONGED SOUND MARK"]⟩,
  ⟨12541, 1, "KATAKANA", ["ITERATION MARK,VOICED ITERATION MARK,DIGRAPH KOTO"]⟩,
  ⟨64256, 1, "LATIN SMALL LIGATURE", ["FF,FI,FL,FFI,FFL,LONG S T,ST"]⟩,
  ⟨64275, 1, "ARMENIAN SMALL LIGATURE", ["MEN NOW,MEN ECH,MEN INI,VEW NOW,MEN XEH"]⟩,
  ⟨65072, 1, "PRESENTATION FORM FOR VERTICAL", ["TWO DOT LEADER,EM DASH,EN DASH,LOW LINE",
    "WAVY LOW LINE,LEFT PARENTHESIS,RIGHT PARENTHESIS,LEFT CURLY BRACKET,RIGHT CURLY BRACKET",
    "LEFT TORTOISE SHELL BRACKET,RIGHT TORTOISE SHELL BRACKET,LEFT BLACK LENTICULAR BRACKET",
    "RIGHT BLACK LENTICULAR BRACKET,LEFT DOUBLE ANGLE BRACKET,RIGHT DOUBLE ANGLE BRACKET",
    "LEFT ANGLE BRACKET,RIGHT ANGLE BRACKET,LEFT CORNER BRACKET,RIGHT CORNER BRACKET",
    "LEFT WHITE CORNER BRACKET,RIGHT WHITE CORNER BRACKET"]⟩,
  ⟨65093, 1, "", ["SESAME DOT,WHITE SESAME DOT"]⟩,
  ⟨65095, 1, "PRESENTATION FORM FOR VERTICAL", ["LEFT SQUARE BRACKET,RIGHT SQUARE BRACKET"]⟩,
  ⟨65097, 1, "", ["DASHED OVERLINE,CENTRELINE OVERLINE,WAVY OVERLINE,DOUBLE WAVY OVERLINE",
    "DASHED LOW LINE,CENTRELINE LOW LINE,WAVY LOW LINE"]⟩,
  ⟨65279, 1, "ZERO", ["WIDTH NO-BREAK SPACE"]⟩,
  ⟨65281, 1, "FULLWIDTH", ["EXCLAMATION MARK,QUOTATION MARK,NUMBER SIGN,DOLLAR SIGN,PERCENT SIGN",
    "AMPERSAND,APOSTROPHE,LEFT PARENTHESIS,RIGHT PARENTHESIS,ASTERISK,PLUS SIGN,COMMA",
    "HYPHEN-MINUS,FULL STOP,SOLIDUS"]⟩,
  ⟨65296, 1, "FULLWIDTH DIGIT", ["ZERO,ONE,TWO,THREE,FOUR,FIVE,SIX,SEVEN,EIGHT,NINE"]⟩,
  ⟨65306, 1, "FULLWIDTH", ["COLON,SEMICOLON,LESS-THAN SIGN,EQUALS SIGN,GREATER-THAN SIGN",
    "QUESTION MARK,COMMERCIAL AT"]⟩,
  ⟨65313, 1, "FULLWIDTH LATIN CAPITAL LETTER", ["A,B,C,D,E,F,G,H,I,J,K,L,M,N,O,P,Q,R,S,T,U,V,W,X",
    "Y,Z"]⟩,
  ⟨65339, 1, "FULLWIDTH", ["LEFT SQUARE BRACKET,REVERSE SOLIDUS,RIGHT SQUARE BRACKET",
    "CIRCUMFLEX ACCENT,LOW LINE,GRAVE ACCENT"]⟩,
  ⟨65345, 1, "FULLWIDTH LATIN SMALL LETTER", ["A,B,C,D,E,F,G,H,I,J,K,L,M,N,O,P,Q,R,S,T,U,V,W,X,Y",
    "Z"]⟩,
  ⟨65371, 1, "FULLWIDTH", ["LEFT CURLY BRACKET,VERTICAL LINE,RIGHT CURLY BRACKET,TILDE",
    "LEFT WHITE PARENTHESIS,RIGHT WHITE PARENTHESIS"]⟩,
  ⟨65377, 1, "HALFWIDTH", ["IDEOGRAPHIC FULL STOP,LEFT CORNER BRACKET,RIGHT CORNER BRACKET",
    "IDEOGRAPHIC COMMA,KATAKANA MIDDLE DOT,KATAKANA LETTER WO"]⟩,
  ⟨65383, 1, "HALFWIDTH KATAKANA LETTER SMALL", ["A,I,U,E,O,YA,YU,YO,TU"]⟩,
  ⟨65392, 1, "HALFWIDTH", ["KATAKANA-HIRAGANA PROLONGED SOUND MARK"]⟩,
  ⟨65393, 1, "HALFWIDTH KATAKANA LETTER", ["A,I,U,E,O,KA,KI,KU,KE,KO,SA,SI,SU,SE,SO,TA,TI,TU,TE",
    "TO,NA,NI,NU,NE,NO,HA,HI,HU,HE,HO,MA,MI,MU,ME,MO,YA,YU,YO,RA,RI,RU,RE,RO,WA,N"]⟩,
  ⟨65438, 1, "HALFWIDTH", ["KATAKANA VOICED SOUND MARK,KATAKANA SEMI-VOICED SOUND MARK",
    "HANGUL FILLER"]⟩,
  ⟨65441, 1, "HALFWIDTH HANGUL LETTER", ["KIYEOK,SSANGKIYEOK,KIYEOK-SIOS,NIEUN,NIEUN-CIEUC",
    "NIEUN-HIEUH,TIKEUT,SSANGTIKEUT,RIEUL,RIEUL-KIYEOK,RIEUL-MIEUM,RIEUL-PIEUP,RIEUL-SIOS",
    "RIEUL-THIEUTH,RIEUL-PHIEUPH,RIEUL-HIEUH,MIEUM,PIEUP,SSANGPIEUP,PIEUP-SIOS,SIOS,SSANGSIOS",
    "IEUNG,CIEUC,SSANGCIEUC,CHIEUCH,KHIEUKH,THIEUTH,PHIEUPH,HIEUH"]⟩,
  ⟨65474, 1, "HALFWIDTH HANGUL LETTER", ["A,AE,YA,YAE,EO,E"]⟩,
  ⟨65482, 1, "HALFWIDTH HANGUL LETTER", ["YEO,YE,O,WA,WAE,OE"]⟩,
  ⟨65490, 1, "HALFWIDTH HANGUL LETTER", ["YO,U,WEO,WE,WI,YU"]⟩,
  ⟨65498, 1, "HALFWIDTH HANGUL LETTER", ["EU,YI,I"]⟩,
  ⟨65504, 1, "FULLWIDTH", ["CENT SIGN,POUND SIGN,NOT SIGN,MACRON,BROKEN BAR,YEN SIGN,WON SIGN"]⟩,
  ⟨65512, 1, "HALFWIDTH", ["FORMS LIGHT VERTICAL,LEFTWARDS ARROW,UPWARDS ARROW,RIGHTWARDS ARROW",
    "DOWNWARDS ARROW,BLACK SQUARE,WHITE CIRCLE"]⟩,
  ⟨65529, 1, "INTERLINEAR ANNOTATION", ["ANCHOR,SEPARATOR,TERMINATOR"]⟩,
  ⟨65532, 1, "", ["OBJECT REPLACEMENT CHARACTER,REPLACEMENT CHARACTER"]⟩,
  ⟨66560, 1, "DESERET CAPITAL LETTER", ["LONG I,LONG E,LONG A,LONG AH,LONG O,LONG OO,SHORT I",
    "SHORT E,SHORT A,SHORT AH,SHORT O,SHORT OO,AY,OW,WU,YEE,H,PEE,BEE,TEE,DEE,CHEE,JEE,KAY,GAY",
    "EF,VEE,ETH,THEE,ES,ZEE,ESH,ZHEE,ER,EL,EM,EN,ENG,OI,EW"]⟩,
  ⟨66600, 1, "DESERET SMALL LETTER", ["LONG I,LONG E,LONG A,LONG AH,LONG O,LONG OO,SHORT I",
    "SHORT E,SHORT A,SHORT AH,SHORT O,SHORT OO,AY,OW,WU,YEE,H,PEE,BEE,TEE,DEE,CHEE,JEE,KAY,GAY",
    "EF,VEE,ETH,THEE,ES,ZEE,ESH,ZHEE,ER,EL,EM,EN,ENG,OI,EW"]⟩,
  ⟨120782, 1, "MATHEMATICAL BOLD DIGIT", ["ZERO,ONE,TWO,THREE,FOUR,FIVE,SIX,SEVEN,EIGHT,NINE"]⟩,
  ⟨120792, 1, "MATHEMATICAL DOUBLE-STRUCK DIGIT", ["ZERO,ONE,TWO,THREE,FOUR,FIVE,SIX,SEVEN,EIGHT",
    "NINE"]⟩,
  ⟨120802, 1, "MATHEMATICAL SANS-SERIF DIGIT", ["ZERO,ONE,TWO,THREE,FOUR,FIVE,SIX,SEVEN,EIGHT",
    "NINE"]⟩,
  ⟨120812, 1, "MATHEMATICAL SANS-SERIF BOLD DIGIT", ["ZERO,ONE,TWO,THREE,FOUR,FIVE,SIX,SEVEN",
    "EIGHT,NINE"]⟩,
  ⟨120822, 1, "MATHEMATICAL MONOSPACE DIGIT", ["ZERO,ONE,TWO,THREE,FOUR,FIVE,SIX,SEVEN,EIGHT",
    "NINE"]⟩,
  ⟨127232, 1, "DIGIT", ["ZERO FULL STOP,ZERO COMMA,ONE COMMA,TWO COMMA,THREE COMMA,FOUR COMMA",
    "FIVE COMMA,SIX COMMA,SEVEN COMMA,EIGHT COMMA,NINE COMMA"]⟩,
  ⟨127462, 1, "REGIONAL INDICATOR SYMBOL LETTER", ["A,B,C,D,E,F,G,H,I,J,K,L,M,N,O,P,Q,R,S,T,U,V",
    "W,X,Y,Z"]⟩,
  ⟨127744, 1, "", ["CYCLONE,FOGGY,CLOSED UMBRELLA,NIGHT WITH STARS,SUNRISE OVER MOUNTAINS",
    "SUNRISE,CITYSCAPE AT DUSK,SUNSET OVER BUILDINGS,RAINBOW,BRIDGE AT NIGHT,WATER WAVE,VOLCANO",
    "MILKY WAY,EARTH GLOBE EUROPE-AFRICA,EARTH GLOBE AMERICAS,EARTH GLOBE ASIA-AUSTRALIA",
    "GLOBE WITH MERIDIANS,NEW MOON SYMBOL,WAXING CRESCENT MOON SYMBOL,FIRST QUARTER MOON SYMBOL",
    "WAXING GIBBOUS MOON SYMBOL,FULL MOON SYMBOL,WANING GIBBOUS MOON SYMBOL",
    "LAST QUARTER MOON SYMBOL,WANING CRESCENT MOON SYMBOL,CRESCENT MOON,NEW MOON WITH FACE",
    "FIRST QUARTER MOON WITH FACE,LAST QUARTER MOON WITH FACE,FULL MOON WITH FACE,SUN WITH FACE",
    "GLOWING STAR,SHOOTING STAR,THERMOMETER,BLACK DROPLET,WHITE SUN"]⟩,
  ⟨127780, 1, "WHITE SUN", ["WITH SMALL CLOUD,BEHIND CLOUD,BEHIND CLOUD WITH RAIN"]⟩,
  ⟨127783, 1, "CLOUD WITH", ["RAIN,SNOW,LIGHTNING,TORNADO"]⟩,
  ⟨127787, 1, "", ["FOG,WIND BLOWING FACE,HOT DOG,TACO,BURRITO,CHESTNUT,SEEDLING,EVERGREEN TREE",
    "DECIDUOUS TREE,PALM TREE,CACTUS,HOT PEPPER,TULIP,CHERRY BLOSSOM,ROSE,HIBISCUS,SUNFLOWER",
    "BLOSSOM,EAR OF MAIZE,EAR OF RICE,HERB,FOUR LEAF CLOVER,MAPLE LEAF,FALLEN LEAF",
    "LEAF FLUTTERING IN WIND,MUSHROOM,TOMATO,AUBERGINE,GRAPES,MELON,WATERMELON,TANGERINE,LEMON",
    "BANANA,PINEAPPLE,RED APPLE,GREEN APPLE,PEAR,PEACH,CHERRIES,STRAWBERRY,HAMBURGER",
    "SLICE OF PIZZA,MEAT ON BONE,POULTRY LEG,RICE CRACKER,RICE BALL,COOKED RICE,CURRY AND RICE",
    "STEAMING BOWL,SPAGHETTI,BREAD,FRENCH FRIES,ROASTED SWEET POTATO,DANGO,ODEN,SUSHI",
    "FRIED SHRIMP,FISH CAKE WITH SWIRL DESIGN,SOFT ICE CREAM,SHAVED ICE,ICE CREAM,DOUGHNUT",
    "COOKIE,CHOCOLATE BAR,CANDY,LOLLIPOP,CUSTARD,HONEY POT,SHORTCAKE,BENTO BOX,POT OF FOOD",
    "COOKING,FORK AND KNIFE,TEACUP WITHOUT HANDLE,SAKE BOTTLE AND CUP,WINE GLASS,COCKTAIL GLASS",
    "TROPICAL DRINK,BEER MUG,CLINKING BEER MUGS,BABY BOTTLE,FORK AND KNIFE WITH PLATE",
    "BOTTLE WITH POPPING CORK,POPCORN,RIBBON,WRAPPED PRESENT,BIRTHDAY CAKE,JACK-O-LANTERN",
    "CHRISTMAS TREE,FATHER CHRISTMAS,FIREWORKS,FIREWORK SPARKLER,BALLOON,PARTY POPPER",
    "CONFETTI BALL,TANABATA TREE,CROSSED FLAGS,PINE DECORATION,JAPANESE DOLLS,CARP STREAMER",
    "WIND CHIME,MOON VIEWING CEREMONY,SCHOOL SATCHEL,GRADUATION CAP,HEART WITH TIP ON THE LEFT",
    "BOUQUET OF FLOWERS,MILITARY MEDAL,REMINDER RIBBON,MUSICAL KEYBOARD WITH JACKS",
    "STUDIO MICROPHONE,LEVEL SLIDER,CONTROL KNOBS,BEAMED ASCENDING MUSICAL NOTES",
    "BEAMED DESCENDING MUSICAL NOTES,FILM FRAMES,ADMISSION TICKETS,CAROUSEL HORSE,FERRIS WHEEL",
    "ROLLER COASTER,FISHING POLE AND FISH,MICROPHONE,MOVIE CAMERA,CINEMA,HEADPHONE",
    "ARTIST PALETTE,TOP HAT,CIRCUS TENT,TICKET,CLAPPER BOARD,PERFORMING ARTS,VIDEO GAME",
    "DIRECT HIT,SLOT MACHINE,BILLIARDS,GAME DIE,BOWLING,FLOWER PLAYING CARDS,MUSICAL NOTE",
    "MULTIPLE MUSICAL NOTES,SAXOPHONE,GUITAR,MUSICAL KEYBOARD,TRUMPET,VIOLIN,MUSICAL SCORE",
    "RUNNING SHIRT WITH SASH,TENNIS RACQUET AND BALL,SKI AND SKI BOOT,BASKETBALL AND HOOP",
    "CHEQUERED FLAG,SNOWBOARDER,RUNNER,SURFER,SPORTS MEDAL,TROPHY,HORSE RACING,AMERICAN FOOTBALL",
    "RUGBY FOOTBALL,SWIMMER,WEIGHT LIFTER,GOLFER,RACING MOTORCYCLE,RACING CAR",
    "CRICKET BAT AND BALL,VOLLEYBALL,FIELD HOCKEY STICK AND BALL,ICE HOCKEY STICK AND PUCK",
    "TABLE TENNIS PADDLE AND BALL,SNOW CAPPED MOUNTAIN,CAMPING,BEACH WITH UMBRELLA",
    "BUILDING CONSTRUCTION,HOUSE BUILDINGS,CITYSCAPE,DERELICT HOUSE BUILDING,CLASSICAL BUILDING",
    "DESERT,DESERT ISLAND,NATIONAL PARK,STADIUM,HOUSE BUILDING,HOUSE WITH GARDEN,OFFICE BUILDING",
    "JAPANESE POST OFFICE,EUROPEAN POST OFFICE,HOSPITAL,BANK,AUTOMATED TELLER MACHINE,HOTEL",
    "LOVE HOTEL,CONVENIENCE STORE,SCHOOL,DEPARTMENT STORE,FACTORY,IZAKAYA LANTERN",
    "JAPANESE CASTLE,EUROPEAN CASTLE,WHITE PENNANT,BLACK PENNANT,WAVING WHITE FLAG",
    "WAVING BLACK FLAG,ROSETTE,BLACK ROSETTE,LABEL,BADMINTON RACQUET AND SHUTTLECOCK",
    "BOW AND ARROW,AMPHORA"]⟩,
  ⟨127995, 1, "EMOJI MODIFIER FITZPATRICK", ["TYPE-1-2,TYPE-3,TYPE-4,TYPE-5,TYPE-6"]⟩,
  ⟨128000, 1, "", ["RAT,MOUSE,OX,WATER BUFFALO,COW,TIGER,LEOPARD,RABBIT,CAT,DRAGON,CROCODILE",
    "WHALE,SNAIL,SNAKE,HORSE,RAM,GOAT,SHEEP,MONKEY,ROOSTER,CHICKEN,DOG,PIG,BOAR,ELEPHANT,OCTOPUS",
    "SPIRAL SHELL,BUG,ANT,HONEYBEE,LADY BEETLE,FISH,TROPICAL FISH,BLOWFISH,TURTLE,HATCHING CHICK",
    "BABY CHICK,FRONT-FACING BABY CHICK,BIRD,PENGUIN,KOALA,POODLE,DROMEDARY CAMEL,BACTRIAN CAMEL",
    "DOLPHIN,MOUSE FACE,COW FACE,TIGER FACE,RABBIT FACE,CAT FACE,DRAGON FACE,SPOUTING WHALE",
    "HORSE FACE,MONKEY FACE,DOG FACE,PIG FACE,FROG FACE,HAMSTER FACE,WOLF FACE,BEAR FACE",
    "PANDA FACE,PIG NOSE,PAW PRINTS,CHIPMUNK,EYES,EYE,EAR,NOSE,MOUTH,TONGUE",
    "WHITE UP POINTING BACKHAND INDEX,WHITE DOWN POINTING BACKHAND INDEX",
    "WHITE LEFT POINTING BACKHAND INDEX,WHITE RIGHT POINTING BACKHAND INDEX,FISTED HAND SIGN",
    "WAVING HAND SIGN,OK HAND SIGN,THUMBS UP SIGN,THUMBS DOWN SIGN,CLAPPING HANDS SIGN",
    "OPEN HANDS SIGN,CROWN,WOMANS HAT,EYEGLASSES,NECKTIE,T-SHIRT,JEANS,DRESS,KIMONO,BIKINI",
    "WOMANS CLOTHES,PURSE,HANDBAG,POUCH,MANS SHOE,ATHLETIC SHOE,HIGH-HEELED SHOE,WOMANS SANDAL",
    "WOMANS BOOTS,FOOTPRINTS,BUST IN SILHOUETTE,BUSTS IN SILHOUETTE,BOY,GIRL,MAN,WOMAN,FAMILY",
    "MAN AND WOMAN HOLDING HANDS,TWO MEN HOLDING HANDS,TWO WOMEN HOLDING HANDS,POLICE OFFICER",
    "WOMAN WITH BUNNY EARS,BRIDE WITH VEIL,PERSON WITH BLOND HAIR,MAN WITH GUA PI MAO",
    "MAN WITH TURBAN,OLDER MAN,OLDER WOMAN,BABY,CONSTRUCTION WORKER,PRINCESS,JAPANESE OGRE",
    "JAPANESE GOBLIN,GHOST,BABY ANGEL,EXTRATERRESTRIAL ALIEN,ALIEN MONSTER,IMP,SKULL",
    "INFORMATION DESK PERSON,GUARDSMAN,DANCER,LIPSTICK,NAIL POLISH,FACE MASSAGE,HAIRCUT",
    "BARBER POLE,SYRINGE,PILL,KISS MARK,LOVE LETTER,RING,GEM STONE,KISS,BOUQUET",
    "COUPLE WITH HEART,WEDDING,BEATING HEART,BROKEN HEART,TWO HEARTS,SPARKLING HEART",
    "GROWING HEART,HEART WITH ARROW,BLUE HEART,GREEN HEART,YELLOW HEART,PURPLE HEART",
    "HEART WITH RIBBON,REVOLVING HEARTS,HEART DECORATION,DIAMOND SHAPE WITH A DOT INSIDE",
    "ELECTRIC LIGHT BULB,ANGER SYMBOL,BOMB,SLEEPING SYMBOL,COLLISION SYMBOL",
    "SPLASHING SWEAT SYMBOL,DROPLET,DASH SYMBOL,PILE OF POO,FLEXED BICEPS,DIZZY SYMBOL",
    "SPEECH BALLOON,THOUGHT BALLOON,WHITE FLOWER,HUNDRED POINTS SYMBOL,MONEY BAG",
    "CURRENCY EXCHANGE,HEAVY DOLLAR SIGN,CREDIT CARD"]⟩,
  ⟨128180, 1, "BANKNOTE WITH", ["YEN SIGN,DOLLAR SIGN,EURO SIGN,POUND SIGN"]⟩,
  ⟨128184, 1, "", ["MONEY WITH WINGS,CHART WITH UPWARDS TREND AND YEN SIGN,SEAT",
    "PERSONAL COMPUTER,BRIEFCASE,MINIDISC,FLOPPY DISK,OPTICAL DISC,DVD,FILE FOLDER",
    "OPEN FILE FOLDER,PAGE WITH CURL,PAGE FACING UP,CALENDAR,TEAR-OFF CALENDAR,CARD INDEX",
    "CHART WITH UPWARDS TREND,CHART WITH DOWNWARDS TREND,BAR CHART,CLIPBOARD,PUSHPIN",
    "ROUND PUSHPIN,PAPERCLIP,STRAIGHT RULER,TRIANGULAR RULER,BOOKMARK TABS,LEDGER,NOTEBOOK",
    "NOTEBOOK WITH DECORATIVE COVER,CLOSED BOOK,OPEN BOOK,GREEN BOOK,BLUE BOOK,ORANGE BOOK,BOOKS",
    "NAME BADGE,SCROLL,MEMO,TELEPHONE RECEIVER,PAGER,FAX MACHINE,SATELLITE ANTENNA",
    "PUBLIC ADDRESS LOUDSPEAKER,CHEERING MEGAPHONE,OUTBOX TRAY,INBOX TRAY,PACKAGE,E-MAIL SYMBOL",
    "INCOMING ENVELOPE,ENVELOPE WITH DOWNWARDS ARROW ABOVE,CLOSED MAILBOX WITH LOWERED FLAG",
    "CLOSED MAILBOX WITH RAISED FLAG,OPEN MAILBOX WITH RAISED FLAG",
    "OPEN MAILBOX WITH LOWERED FLAG,POSTBOX,POSTAL HORN,NEWSPAPER,MOBILE PHONE",
    "MOBILE PHONE WITH RIGHTWARDS ARROW AT LEFT,VIBRATION MODE,MOBILE PHONE OFF,NO MOBILE PHONES",
    "ANTENNA WITH BARS,CAMERA,CAMERA WITH FLASH,VIDEO CAMERA,TELEVISION,RADIO,VIDEOCASSETTE",
    "FILM PROJECTOR,PORTABLE STEREO,PRAYER BEADS,TWISTED RIGHTWARDS ARROWS"]⟩,
  ⟨128257, 1, "CLOCKWISE RIGHTWARDS AND LEFTWARDS OPEN CIRCLE", ["ARROWS",
    "ARROWS WITH CIRCLED ONE OVERLAY"]⟩,
  ⟨128259, 1, "", ["CLOCKWISE DOWNWARDS AND UPWARDS OPEN CIRCLE ARROWS",
    "ANTICLOCKWISE DOWNWARDS AND UPWARDS OPEN CIRCLE ARROWS,LOW BRIGHTNESS SYMBOL",
    "HIGH BRIGHTNESS SYMBOL,SPEAKER WITH CANCELLATION STROKE,SPEAKER,SPEAKER WITH ONE SOUND WAVE",
    "SPEAKER WITH THREE SOUND WAVES,BATTERY,ELECTRIC PLUG,LEFT-POINTING MAGNIFYING GLASS",
    "RIGHT-POINTING MAGNIFYING GLASS,LOCK WITH INK PEN,CLOSED LOCK WITH KEY,KEY,LOCK,OPEN LOCK",
    "BELL,BELL WITH CANCELLATION STROKE,BOOKMARK,LINK SYMBOL,RADIO BUTTON",
    "BACK WITH LEFTWARDS ARROW ABOVE,END WITH LEFTWARDS ARROW ABOVE",
    "ON WITH EXCLAMATION MARK WITH LEFT RIGHT ARROW ABOVE,SOON WITH RIGHTWARDS ARROW ABOVE",
    "TOP WITH UPWARDS ARROW ABOVE,NO ONE UNDER EIGHTEEN SYMBOL,KEYCAP TEN"]⟩,
  ⟨128288, 1, "INPUT SYMBOL FOR", ["LATIN CAPITAL LETTERS,LATIN SMALL LETTERS,NUMBERS,SYMBOLS",
    "LATIN LETTERS"]⟩,
  ⟨128293, 1, "", ["FIRE,ELECTRIC TORCH,WRENCH,HAMMER,NUT AND BOLT,HOCHO,PISTOL,MICROSCOPE",
    "TELESCOPE,CRYSTAL BALL,SIX POINTED STAR WITH MIDDLE DOT,JAPANESE SYMBOL FOR BEGINNER",
    "TRIDENT EMBLEM,BLACK SQUARE BUTTON,WHITE SQUARE BUTTON,LARGE RED CIRCLE,LARGE BLUE CIRCLE",
    "LARGE ORANGE DIAMOND,LARGE BLUE DIAMOND,SMALL ORANGE DIAMOND,SMALL BLUE DIAMOND",
    "UP-POINTING RED TRIANGLE,DOWN-POINTING RED TRIANGLE,UP-POINTING SMALL RED TRIANGLE",
    "DOWN-POINTING SMALL RED TRIANGLE,LOWER RIGHT SHADOWED WHITE CIRCLE",
    "UPPER RIGHT SHADOWED WHITE CIRCLE,CIRCLED CROSS POMMEE,CROSS POMMEE WITH HALF-CIRCLE BELOW",
    "CROSS POMMEE,NOTCHED LEFT SEMICIRCLE WITH THREE DOTS",
    "NOTCHED RIGHT SEMICIRCLE WITH THREE DOTS,SYMBOL FOR MARKS CHAPTER,WHITE LATIN CROSS",
    "HEAVY LATIN CROSS,CELTIC CROSS,OM SYMBOL,DOVE OF PEACE,KAABA,MOSQUE,SYNAGOGUE",
    "MENORAH WITH NINE BRANCHES,BOWL OF HYGIEIA"]⟩,
  ⟨128336, 1, "CLOCK FACE", ["ONE OCLOCK,TWO OCLOCK,THREE OCLOCK,FOUR OCLOCK,FIVE OCLOCK",
    "SIX OCLOCK,SEVEN OCLOCK,EIGHT OCLOCK,NINE OCLOCK,TEN OCLOCK,ELEVEN OCLOCK,TWELVE OCLOCK",
    "ONE-THIRTY,TWO-THIRTY,THREE-THIRTY,FOUR-THIRTY,FIVE-THIRTY,SIX-THIRTY,SEVEN-THIRTY",
    "EIGHT-THIRTY,NINE-THIRTY,TEN-THIRTY,ELEVEN-THIRTY,TWELVE-THIRTY"]⟩,
  ⟨128360, 1, "", ["RIGHT SPEAKER,RIGHT SPEAKER WITH ONE SOUND WAVE",
    "RIGHT SPEAKER WITH THREE SOUND WAVES,BULLHORN,BULLHORN WITH SOUND WAVES,RINGING BELL,BOOK",
    "CANDLE,MANTELPIECE CLOCK,BLACK SKULL AND CROSSBONES,NO PIRACY,HOLE",
    "MAN IN BUSINESS SUIT LEVITATING,SLEUTH OR SPY,DARK SUNGLASSES,SPIDER,SPIDER WEB,JOYSTICK",
    "MAN DANCING,LEFT HAND TELEPHONE RECEIVER,TELEPHONE RECEIVER WITH PAGE",
    "RIGHT HAND TELEPHONE RECEIVER,WHITE TOUCHTONE TELEPHONE,BLACK TOUCHTONE TELEPHONE",
    "TELEPHONE ON TOP OF MODEM,CLAMSHELL MOBILE PHONE,BACK OF ENVELOPE,STAMPED ENVELOPE",
    "ENVELOPE WITH LIGHTNING,FLYING ENVELOPE,PEN OVER STAMPED ENVELOPE,LINKED PAPERCLIPS",
    "BLACK PUSHPIN"]⟩,
  ⟨128393, 1, "LOWER LEFT", ["PENCIL,BALLPOINT PEN,FOUNTAIN PEN,PAINTBRUSH,CRAYON"]⟩,
  ⟨128398, 1, "", ["LEFT WRITING HAND,TURNED OK HAND SIGN,RAISED HAND WITH FINGERS SPLAYED"]⟩,
  ⟨128401, 1, "REVERSED", ["RAISED HAND WITH FINGERS SPLAYED,THUMBS UP SIGN,THUMBS DOWN SIGN",
    "VICTORY HAND,HAND WITH MIDDLE FINGER EXTENDED"]⟩,
  ⟨128406, 1, "", ["RAISED HAND WITH PART BETWEEN MIDDLE AND RING FINGERS",
    "WHITE DOWN POINTING LEFT HAND INDEX"]⟩,
  ⟨128408, 1, "SIDEWAYS", ["WHITE LEFT POINTING INDEX,WHITE RIGHT POINTING INDEX",
    "BLACK LEFT POINTING INDEX,BLACK RIGHT POINTING INDEX"]⟩,
  ⟨128412, 1, "BLACK", ["LEFT POINTING BACKHAND INDEX,RIGHT POINTING BACKHAND INDEX"]⟩,
  ⟨128414, 1, "SIDEWAYS", ["WHITE UP POINTING INDEX,WHITE DOWN POINTING INDEX",
    "BLACK UP POINTING INDEX,BLACK DOWN POINTING INDEX"]⟩,
  ⟨128418, 1, "", ["BLACK UP POINTING BACKHAND INDEX,BLACK DOWN POINTING BACKHAND INDEX",
    "BLACK HEART,DESKTOP COMPUTER,KEYBOARD AND MOUSE,THREE NETWORKED COMPUTERS,PRINTER",
    "POCKET CALCULATOR,BLACK HARD SHELL FLOPPY DISK,WHITE HARD SHELL FLOPPY DISK",
    "SOFT SHELL FLOPPY DISK,TAPE CARTRIDGE,WIRED KEYBOARD,ONE BUTTON MOUSE,TWO BUTTON MOUSE",
    "THREE BUTTON MOUSE,TRACKBALL,OLD PERSONAL COMPUTER,HARD DISK,SCREEN,PRINTER ICON,FAX ICON",
    "OPTICAL DISC ICON"]⟩,
  ⟨128441, 1, "DOCUMENT WITH", ["TEXT,TEXT AND PICTURE,PICTURE"]⟩,
  ⟨128444, 1, "FRAME WITH", ["PICTURE,TILES,AN X"]⟩,
  ⟨128447, 1, "", ["BLACK FOLDER,FOLDER,OPEN FOLDER,CARD INDEX DIVIDERS,CARD FILE BOX",
    "FILE CABINET,EMPTY NOTE,EMPTY NOTE PAGE,EMPTY NOTE PAD,NOTE,NOTE PAGE,NOTE PAD",
    "EMPTY DOCUMENT,EMPTY PAGE,EMPTY PAGES,DOCUMENT,PAGE,PAGES,WASTEBASKET,SPIRAL NOTE PAD",
    "SPIRAL CALENDAR PAD,DESKTOP WINDOW,MINIMIZE,MAXIMIZE,OVERLAP",
    "CLOCKWISE RIGHT AND LEFT SEMICIRCLE ARROWS,CANCELLATION X,INCREASE FONT SIZE SYMBOL",
    "DECREASE FONT SIZE SYMBOL,COMPRESSION,OLD KEY,ROLLED-UP NEWSPAPER,PAGE WITH CIRCLED TEXT",
    "STOCK CHART,DAGGER KNIFE,LIPS,SPEAKING HEAD IN SILHOUETTE"]⟩,
  ⟨128484, 1, "THREE RAYS", ["ABOVE,BELOW,LEFT,RIGHT"]⟩,
  ⟨128488, 1, "", ["LEFT SPEECH BUBBLE,RIGHT SPEECH BUBBLE,TWO SPEECH BUBBLES",
    "THREE SPEECH BUBBLES,LEFT THOUGHT BUBBLE,RIGHT THOUGHT BUBBLE,LEFT ANGER BUBBLE",
    "RIGHT ANGER BUBBLE,MOOD BUBBLE,LIGHTNING MOOD BUBBLE,LIGHTNING MOOD"]⟩,
  ⟨128499, 1, "BALLOT", ["BOX WITH BALLOT,SCRIPT X,BOX WITH SCRIPT X,BOLD SCRIPT X",
    "BOX WITH BOLD SCRIPT X"]⟩,
  ⟨128504, 1, "", ["LIGHT CHECK MARK,BALLOT BOX WITH BOLD CHECK,WORLD MAP,MOUNT FUJI,TOKYO TOWER",
    "STATUE OF LIBERTY,SILHOUETTE OF JAPAN,MOYAI,GRINNING FACE,GRINNING FACE WITH SMILING EYES",
    "FACE WITH TEARS OF JOY"]⟩,
  ⟨128515, 1, "SMILING FACE WITH", ["OPEN MOUTH,OPEN MOUTH AND SMILING EYES",
    "OPEN MOUTH AND COLD SWEAT,OPEN MOUTH AND TIGHTLY-CLOSED EYES,HALO,HORNS"]⟩,
  ⟨128521, 1, "", ["WINKING FACE,SMILING FACE WITH SMILING EYES,FACE SAVOURING DELICIOUS FOOD",
    "RELIEVED FACE,SMILING FACE WITH HEART-SHAPED EYES,SMILING FACE WITH SUNGLASSES",
    "SMIRKING FACE,NEUTRAL FACE,EXPRESSIONLESS FACE,UNAMUSED FACE,FACE WITH COLD SWEAT",
    "PENSIVE FACE,CONFUSED FACE,CONFOUNDED FACE,KISSING FACE,FACE THROWING A KISS"]⟩,
  ⟨128537, 1, "KISSING FACE WITH", ["SMILING EYES,CLOSED EYES"]⟩,
  ⟨128539, 1, "FACE WITH STUCK-OUT", ["TONGUE,TONGUE AND WINKING EYE",
    "TONGUE AND TIGHTLY-CLOSED EYES"]⟩,
  ⟨128542, 1, "", ["DISAPPOINTED FACE,WORRIED FACE,ANGRY FACE,POUTING FACE,CRYING FACE",
    "PERSEVERING FACE,FACE WITH LOOK OF TRIUMPH,DISAPPOINTED BUT RELIEVED FACE",
    "FROWNING FACE WITH OPEN MOUTH,ANGUISHED FACE,FEARFUL FACE,WEARY FACE,SLEEPY FACE,TIRED FACE",
    "GRIMACING FACE,LOUDLY CRYING FACE,FACE WITH OPEN MOUTH,HUSHED FACE",
    "FACE WITH OPEN MOUTH AND COLD SWEAT,FACE SCREAMING IN FEAR,ASTONISHED FACE,FLUSHED FACE",
    "SLEEPING FACE,DIZZY FACE,FACE WITHOUT MOUTH,FACE WITH MEDICAL MASK",
    "GRINNING CAT FACE WITH SMILING EYES,CAT FACE WITH TEARS OF JOY",
    "SMILING CAT FACE WITH OPEN MOUTH,SMILING CAT FACE WITH HEART-SHAPED EYES",
    "CAT FACE WITH WRY SMILE,KISSING CAT FACE WITH CLOSED EYES,POUTING CAT FACE,CRYING CAT FACE",
    "WEARY CAT FACE,SLIGHTLY FROWNING FACE,SLIGHTLY SMILING FACE,UPSIDE-DOWN FACE",
    "FACE WITH ROLLING EYES,FACE WITH NO GOOD GESTURE,FACE WITH OK GESTURE,PERSON BOWING DEEPLY",
    "SEE-NO-EVIL MONKEY,HEAR-NO-EVIL MONKEY,SPEAK-NO-EVIL MONKEY,HAPPY PERSON RAISING ONE HAND"]⟩,
  ⟨128588, 1, "PERSON", ["RAISING BOTH HANDS IN CELEBRATION,FROWNING,WITH POUTING FACE",
    "WITH FOLDED HANDS"]⟩,
  ⟨128640, 1, "", ["ROCKET,HELICOPTER,STEAM LOCOMOTIVE,RAILWAY CAR,HIGH-SPEED TRAIN",
    "HIGH-SPEED TRAIN WITH BULLET NOSE,TRAIN,METRO,LIGHT RAIL,STATION,TRAM,TRAM CAR,BUS",
    "ONCOMING BUS,TROLLEYBUS,BUS STOP,MINIBUS,AMBULANCE,FIRE ENGINE,POLICE CAR",
    "ONCOMING POLICE CAR,TAXI,ONCOMING TAXI,AUTOMOBILE,ONCOMING AUTOMOBILE,RECREATIONAL VEHICLE",
    "DELIVERY TRUCK,ARTICULATED LORRY,TRACTOR,MONORAIL,MOUNTAIN RAILWAY,SUSPENSION RAILWAY",
    "MOUNTAIN CABLEWAY,AERIAL TRAMWAY,SHIP,ROWBOAT,SPEEDBOAT,HORIZONTAL TRAFFIC LIGHT",
    "VERTICAL TRAFFIC LIGHT,CONSTRUCTION SIGN,POLICE CARS REVOLVING LIGHT",
    "TRIANGULAR FLAG ON POST,DOOR,NO ENTRY SIGN,SMOKING SYMBOL,NO SMOKING SYMBOL",
    "PUT LITTER IN ITS PLACE SYMBOL,DO NOT LITTER SYMBOL,POTABLE WATER SYMBOL",
    "NON-POTABLE WATER SYMBOL,BICYCLE,NO BICYCLES,BICYCLIST,MOUNTAIN BICYCLIST,PEDESTRIAN",
    "NO PEDESTRIANS,CHILDREN CROSSING,MENS SYMBOL,WOMENS SYMBOL,RESTROOM,BABY SYMBOL,TOILET",
    "WATER CLOSET,SHOWER,BATH,BATHTUB,PASSPORT CONTROL,CUSTOMS,BAGGAGE CLAIM,LEFT LUGGAGE",
    "TRIANGLE WITH ROUNDED CORNERS,PROHIBITED SIGN,CIRCLED INFORMATION SOURCE,BOYS SYMBOL",
    "GIRLS SYMBOL,COUCH AND LAMP,SLEEPING ACCOMMODATION,SHOPPING BAGS,BELLHOP BELL,BED",
    "PLACE OF WORSHIP,OCTAGONAL SIGN,SHOPPING TROLLEY,STUPA,PAGODA,HINDU TEMPLE,HUT,ELEVATOR"]⟩,
  ⟨128733, 1, "", ["PLAYGROUND SLIDE,WHEEL,RING BUOY,HAMMER AND WRENCH,SHIELD,OIL DRUM,MOTORWAY",
    "RAILWAY TRACK,MOTOR BOAT,UP-POINTING MILITARY AIRPLANE,UP-POINTING AIRPLANE",
    "UP-POINTING SMALL AIRPLANE,SMALL AIRPLANE,NORTHEAST-POINTING AIRPLANE,AIRPLANE DEPARTURE",
    "AIRPLANE ARRIVING"]⟩,
  ⟨128752, 1, "", ["SATELLITE,ONCOMING FIRE ENGINE,DIESEL LOCOMOTIVE,PASSENGER SHIP,SCOOTER",
    "MOTOR SCOOTER,CANOE,SLED,FLYING SAUCER,SKATEBOARD,AUTO RICKSHAW,PICKUP TRUCK,ROLLER SKATE"]⟩,
  ⟨129280, 1, "CIRCLED CROSS", ["FORMEE WITH FOUR DOTS,FORMEE WITH TWO DOTS,FORMEE"]⟩,
  ⟨129283, 1, "LEFT HALF CIRCLE WITH", ["FOUR DOTS,THREE DOTS,TWO DOTS,DOT"]⟩,
  ⟨129287, 1, "LEFT", ["HALF CIRCLE"]⟩,
  ⟨129288, 1, "DOWNWARD FACING", ["HOOK,NOTCHED HOOK,HOOK WITH DOT,NOTCHED HOOK WITH DOT"]⟩,
  ⟨129292, 1, "", ["PINCHED FINGERS,WHITE HEART,BROWN HEART,PINCHING HAND,ZIPPER-MOUTH FACE",
    "MONEY-MOUTH FACE,FACE WITH THERMOMETER,NERD FACE,THINKING FACE,FACE WITH HEAD-BANDAGE",
    "ROBOT FACE,HUGGING FACE,SIGN OF THE HORNS,CALL ME HAND,RAISED BACK OF HAND,LEFT-FACING FIST",
    "RIGHT-FACING FIST,HANDSHAKE,HAND WITH INDEX AND MIDDLE FINGERS CROSSED,I LOVE YOU HAND SIGN",
    "FACE WITH COWBOY HAT,CLOWN FACE,NAUSEATED FACE,ROLLING ON THE FLOOR LAUGHING,DROOLING FACE",
    "LYING FACE,FACE PALM,SNEEZING FACE,FACE WITH ONE EYEBROW RAISED",
    "GRINNING FACE WITH STAR EYES,GRINNING FACE WITH ONE LARGE AND ONE SMALL EYE",
    "FACE WITH FINGER COVERING CLOSED LIPS,SERIOUS FACE WITH SYMBOLS COVERING MOUTH",
    "SMILING FACE WITH SMILING EYES AND HAND COVERING MOUTH,FACE WITH OPEN MOUTH VOMITING",
    "SHOCKED FACE WITH EXPLODING HEAD,PREGNANT WOMAN,BREAST-FEEDING,PALMS UP TOGETHER,SELFIE",
    "PRINCE,MAN IN TUXEDO,MOTHER CHRISTMAS,SHRUG,PERSON DOING CARTWHEEL,JUGGLING,FENCER",
    "MODERN PENTATHLON,WRESTLERS,WATER POLO,HANDBALL,DIVING MASK,WILTED FLOWER",
    "DRUM WITH DRUMSTICKS,CLINKING GLASSES,TUMBLER GLASS,SPOON,GOAL NET,RIFLE,FIRST PLACE MEDAL",
    "SECOND PLACE MEDAL,THIRD PLACE MEDAL,BOXING GLOVE,MARTIAL ARTS UNIFORM,CURLING STONE",
    "LACROSSE STICK AND BALL,SOFTBALL,FLYING DISC,CROISSANT,AVOCADO,CUCUMBER,BACON,POTATO,CARROT",
    "BAGUETTE BREAD,GREEN SALAD,SHALLOW PAN OF FOOD,STUFFED FLATBREAD,EGG,GLASS OF MILK,PEANUTS",
    "KIWIFRUIT,PANCAKES,DUMPLING,FORTUNE COOKIE,TAKEOUT BOX,CHOPSTICKS,BOWL WITH SPOON",
    "CUP WITH STRAW,COCONUT,BROCCOLI,PIE,PRETZEL,CUT OF MEAT,SANDWICH,CANNED FOOD,LEAFY GREEN",
    "MANGO,MOON CAKE,BAGEL,SMILING FACE WITH SMILING EYES AND THREE HEARTS,YAWNING FACE",
    "SMILING FACE WITH TEAR,FACE WITH PARTY HORN AND PARTY HAT",
    "FACE WITH UNEVEN EYES AND WAVY MOUTH,OVERHEATED FACE,FREEZING FACE,NINJA,DISGUISED FACE",
    "FACE HOLDING BACK TEARS,FACE WITH PLEADING EYES,SARI,LAB COAT,GOGGLES,HIKING BOOT,FLAT SHOE",
    "CRAB,LION FACE,SCORPION,TURKEY,UNICORN FACE,EAGLE,DUCK,BAT,SHARK,OWL,FOX FACE,BUTTERFLY",
    "DEER,GORILLA,LIZARD,RHINOCEROS,SHRIMP,SQUID,GIRAFFE FACE,ZEBRA FACE,HEDGEHOG,SAUROPOD,T-REX",
    "CRICKET,KANGAROO,LLAMA,PEACOCK,HIPPOPOTAMUS,PARROT,RACCOON,LOBSTER,MOSQUITO,MICROBE,BADGER",
    "SWAN,MAMMOTH,DODO,SLOTH,OTTER,ORANGUTAN,SKUNK,FLAMINGO,OYSTER,BEAVER,BISON,SEAL,GUIDE DOG",
    "PROBING CANE"]⟩,
  ⟨129456, 1, "EMOJI COMPONENT", ["RED HAIR,CURLY HAIR,BALD,WHITE HAIR"]⟩,
  ⟨129460, 1, "", ["BONE,LEG,FOOT,TOOTH,SUPERHERO,SUPERVILLAIN,SAFETY VEST,EAR WITH HEARING AID",
    "MOTORIZED WHEELCHAIR,MANUAL WHEELCHAIR,MECHANICAL ARM,MECHANICAL LEG,CHEESE WEDGE,CUPCAKE",
    "SALT SHAKER,BEVERAGE BOX,GARLIC,ONION,FALAFEL,WAFFLE,BUTTER,MATE DRINK,ICE CUBE,BUBBLE TEA",
    "TROLL,STANDING PERSON,KNEELING PERSON,DEAF PERSON,FACE WITH MONOCLE,ADULT,CHILD,OLDER ADULT",
    "BEARDED PERSON,PERSON WITH HEADSCARF,PERSON IN STEAMY ROOM,PERSON CLIMBING",
    "PERSON IN LOTUS POSITION,MAGE,FAIRY,VAMPIRE,MERPERSON,ELF,GENIE,ZOMBIE,BRAIN,ORANGE HEART",
    "BILLED CAP,SCARF,GLOVES,COAT,SOCKS,RED GIFT ENVELOPE,FIRECRACKER,JIGSAW PUZZLE PIECE",
    "TEST TUBE,PETRI DISH,DNA DOUBLE HELIX,COMPASS,ABACUS,FIRE EXTINGUISHER,TOOLBOX,BRICK,MAGNET",
    "LUGGAGE,LOTION BOTTLE,SPOOL OF THREAD,BALL OF YARN,SAFETY PIN,TEDDY BEAR,BROOM,BASKET",
    "ROLL OF PAPER,BAR OF SOAP,SPONGE,RECEIPT,NAZAR AMULET"]⟩]

/-- Further names, and the names of the characters that control a device. -/
def others : List (String × Nat) := [
  ("NULL", 0), ("NUL", 0), ("START OF HEADING", 1), ("SOH", 1), ("START OF TEXT", 2), ("STX", 2),
  ("END OF TEXT", 3), ("ETX", 3), ("END OF TRANSMISSION", 4), ("EOT", 4), ("ENQUIRY", 5),
  ("ENQ", 5), ("ACKNOWLEDGE", 6), ("ACK", 6), ("ALERT", 7), ("BEL", 7), ("BACKSPACE", 8),
  ("BS", 8), ("CHARACTER TABULATION", 9), ("HORIZONTAL TABULATION", 9), ("HT", 9), ("TAB", 9),
  ("LINE FEED", 10), ("NEW LINE", 10), ("END OF LINE", 10), ("LF", 10), ("NL", 10), ("EOL", 10),
  ("LINE TABULATION", 11), ("VERTICAL TABULATION", 11), ("VT", 11), ("FORM FEED", 12), ("FF", 12),
  ("CARRIAGE RETURN", 13), ("CR", 13), ("SHIFT OUT", 14), ("LOCKING-SHIFT ONE", 14), ("SO", 14),
  ("SHIFT IN", 15), ("LOCKING-SHIFT ZERO", 15), ("SI", 15), ("DATA LINK ESCAPE", 16), ("DLE", 16),
  ("DEVICE CONTROL ONE", 17), ("DC1", 17), ("DEVICE CONTROL TWO", 18), ("DC2", 18),
  ("DEVICE CONTROL THREE", 19), ("DC3", 19), ("DEVICE CONTROL FOUR", 20), ("DC4", 20),
  ("NEGATIVE ACKNOWLEDGE", 21), ("NAK", 21), ("SYNCHRONOUS IDLE", 22), ("SYN", 22),
  ("END OF TRANSMISSION BLOCK", 23), ("ETB", 23), ("CANCEL", 24), ("CAN", 24),
  ("END OF MEDIUM", 25), ("EOM", 25), ("SUBSTITUTE", 26), ("SUB", 26), ("ESCAPE", 27), ("ESC", 27),
  ("INFORMATION SEPARATOR FOUR", 28), ("FILE SEPARATOR", 28), ("FS", 28),
  ("INFORMATION SEPARATOR THREE", 29), ("GROUP SEPARATOR", 29), ("GS", 29),
  ("INFORMATION SEPARATOR TWO", 30), ("RECORD SEPARATOR", 30), ("RS", 30),
  ("INFORMATION SEPARATOR ONE", 31), ("UNIT SEPARATOR", 31), ("US", 31), ("SP", 32),
  ("DELETE", 127), ("DEL", 127), ("PADDING CHARACTER", 128), ("PAD", 128),
  ("HIGH OCTET PRESET", 129), ("HOP", 129), ("BREAK PERMITTED HERE", 130), ("BPH", 130),
  ("NO BREAK HERE", 131), ("NBH", 131), ("INDEX", 132), ("IND", 132), ("NEXT LINE", 133),
  ("NEL", 133), ("START OF SELECTED AREA", 134), ("SSA", 134), ("END OF SELECTED AREA", 135),
  ("ESA", 135), ("CHARACTER TABULATION SET", 136), ("HORIZONTAL TABULATION SET", 136),
  ("HTS", 136), ("CHARACTER TABULATION WITH JUSTIFICATION", 137),
  ("HORIZONTAL TABULATION WITH JUSTIFICATION", 137), ("HTJ", 137), ("LINE TABULATION SET", 138),
  ("VERTICAL TABULATION SET", 138), ("VTS", 138), ("PARTIAL LINE FORWARD", 139),
  ("PARTIAL LINE DOWN", 139), ("PLD", 139), ("PARTIAL LINE BACKWARD", 140),
  ("PARTIAL LINE UP", 140), ("PLU", 140), ("REVERSE LINE FEED", 141), ("REVERSE INDEX", 141),
  ("RI", 141), ("SINGLE SHIFT TWO", 142), ("SINGLE-SHIFT-2", 142), ("SS2", 142),
  ("SINGLE SHIFT THREE", 143), ("SINGLE-SHIFT-3", 143), ("SS3", 143),
  ("DEVICE CONTROL STRING", 144), ("DCS", 144), ("PRIVATE USE ONE", 145), ("PRIVATE USE-1", 145),
  ("PU1", 145), ("PRIVATE USE TWO", 146), ("PRIVATE USE-2", 146), ("PU2", 146),
  ("SET TRANSMIT STATE", 147), ("STS", 147), ("CANCEL CHARACTER", 148), ("CCH", 148),
  ("MESSAGE WAITING", 149), ("MW", 149), ("START OF GUARDED AREA", 150),
  ("START OF PROTECTED AREA", 150), ("SPA", 150), ("END OF GUARDED AREA", 151),
  ("END OF PROTECTED AREA", 151), ("EPA", 151), ("START OF STRING", 152), ("SOS", 152),
  ("SINGLE GRAPHIC CHARACTER INTRODUCER", 153), ("SGC", 153), ("SINGLE CHARACTER INTRODUCER", 154),
  ("SCI", 154), ("CONTROL SEQUENCE INTRODUCER", 155), ("CSI", 155), ("STRING TERMINATOR", 156),
  ("ST", 156), ("OPERATING SYSTEM COMMAND", 157), ("OSC", 157), ("PRIVACY MESSAGE", 158),
  ("PM", 158), ("APPLICATION PROGRAM COMMAND", 159), ("APC", 159), ("NBSP", 160), ("SHY", 173),
  ("LATIN CAPITAL LETTER GHA", 418), ("LATIN SMALL LETTER GHA", 419), ("CGJ", 847), ("ALM", 1564),
  ("FVS1", 6155), ("MVS", 6158), ("ZWSP", 8203), ("ZWNJ", 8204), ("ZWJ", 8205), ("LRM", 8206),
  ("RLM", 8207), ("LRE", 8234), ("RLE", 8235), ("PDF", 8236), ("LRO", 8237), ("RLO", 8238),
  ("NNBSP", 8239), ("MMSP", 8287), ("WJ", 8288), ("LRI", 8294), ("RLI", 8295), ("FSI", 8296),
  ("PDI", 8297), ("WEIERSTRASS ELLIPTIC FUNCTION", 8472), ("VS1", 65024), ("VS16", 65039),
  ("ZWNBSP", 65279), ("BYTE ORDER MARK", 65279), ("BOM", 65279), ("VS17", 917760)]

def leads : List String := [
  "G", "GG", "N", "D", "DD", "R", "M", "B", "BB", "S", "SS", "", "J", "JJ", "C", "K", "T", "P", "H"]

def vowels : List String := [
  "A", "AE", "YA", "YAE", "EO", "E", "YEO", "YE", "O", "WA", "WAE", "OE", "YO", "U", "WEO", "WE",
  "WI", "YU", "EU", "YI", "I"]

def trails : List String := [
  "", "G", "GG", "GS", "N", "NJ", "NH", "D", "L", "LG", "LM", "LB", "LS", "LT", "LP", "LH", "M",
  "B", "BS", "S", "SS", "NG", "J", "C", "K", "T", "P", "H"]

/-- Ranges of the unified ideographs. -/
def ideographs : List (Nat × Nat) := [
  (13312, 19903), (19968, 40959), (131072, 173791), (173824, 177976), (177984, 178205),
  (178208, 183969), (183984, 191456), (196608, 201546)]

end CharacterName

namespace NameRun

/-- The code point of a name in capitals, if the run has it. -/
def find? (run : NameRun) (name : String) : Option Nat := do
  let rest ←
    if run.stem.isEmpty then some name
    else if (run.stem ++ " ").toList.isPrefixOf name.toList then
      some (String.ofList (name.toList.drop (run.stem.length + 1)))
    else none
  let place ← (run.lines.flatMap (·.splitOn ",")).findIdx? (· == rest)
  return run.first + run.step * place

end NameRun

namespace CharacterName

/-- What is left of a text after a beginning. -/
def after? (start : String) (name : String) : Option (List Char) :=
  if start.toList.isPrefixOf name.toList then some (name.toList.drop start.length) else none

def hexValue? (c : Char) : Option Nat :=
  if 48 ≤ c.toNat ∧ c.toNat ≤ 57 then some (c.toNat - 48)
  else if 65 ≤ c.toNat ∧ c.toNat ≤ 70 then some (c.toNat - 55)
  else none

/-- An ideograph is named by its code point, in four or five hexadecimal digits. -/
def ideograph? (name : String) : Option Nat := do
  let digits ← after? "CJK UNIFIED IDEOGRAPH-" name
  guard (digits.length = 4 ∨ digits.length = 5)
  let values ← digits.mapM hexValue?
  let code := values.foldl (fun n d => 16 * n + d) 0
  guard (ideographs.any fun r => decide (r.1 ≤ code) && decide (code ≤ r.2))
  return code

/-- The longest of some parts that a text begins with: its place, and the rest of the text. -/
def longest? (parts : List String) (cs : List Char) : Option (Nat × List Char) :=
  let found := parts.zipIdx.filter fun p => p.1.toList.isPrefixOf cs
  let best := found.foldl
    (fun best p => match best with
      | some q => if q.1.length < p.1.length then some p else best
      | none => some p)
    none
  best.map fun p => (p.2, cs.drop p.1.length)

/-- A syllable is named by its lead, its vowel and its trail. -/
def syllable? (name : String) : Option Nat := do
  let cs ← after? "HANGUL SYLLABLE " name
  let (lead, cs) ← longest? leads cs
  let (vowel, cs) ← longest? vowels cs
  let (trail, cs) ← longest? trails cs
  guard cs.isEmpty
  return 44032 + (lead * vowels.length + vowel) * trails.length + trail

end CharacterName

/-- The character of a name; capitals and small letters are the same in the names of a run. -/
def namedCharacter? (name : String) : Option Nat :=
  let capitals := String.ofList (name.toList.map Char.toUpper)
  (CharacterName.syllable? name).or <|
    (CharacterName.ideograph? name).or <|
      (CharacterName.others.lookup capitals).or <|
        CharacterName.runs.findSome? (·.find? capitals)

end FormEngine
