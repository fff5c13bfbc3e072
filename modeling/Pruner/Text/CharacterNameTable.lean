namespace Pruner.Text

/-- Numbers, in hexadecimal, and Unicode names of about 1,600 characters: all from ASCII to Latin
Extended-A, the first combining accents, the basic Greek and Cyrillic letters, general punctuation,
currency signs, letterlike symbols, arrows, mathematical operators, geometric shapes and other
symbols up to the dingbats, a few signs of other blocks, and the emoticons. A character with another
name is not found. -/
def characterNameTable : String :=
  "20 SPACE
    21 EXCLAMATION MARK
    22 QUOTATION MARK
    23 NUMBER SIGN
    24 DOLLAR SIGN
    25 PERCENT SIGN
    26 AMPERSAND
    27 APOSTROPHE
    28 LEFT PARENTHESIS
    29 RIGHT PARENTHESIS
    2a ASTERISK
    2b PLUS SIGN
    2c COMMA
    2d HYPHEN-MINUS
    2e FULL STOP
    2f SOLIDUS
    30 DIGIT ZERO
    31 DIGIT ONE
    32 DIGIT TWO
    33 DIGIT THREE
    34 DIGIT FOUR
    35 DIGIT FIVE
    36 DIGIT SIX
    37 DIGIT SEVEN
    38 DIGIT EIGHT
    39 DIGIT NINE
    3a COLON
    3b SEMICOLON
    3c LESS-THAN SIGN
    3d EQUALS SIGN
    3e GREATER-THAN SIGN
    3f QUESTION MARK
    40 COMMERCIAL AT
    41 LATIN CAPITAL LETTER A
    42 LATIN CAPITAL LETTER B
    43 LATIN CAPITAL LETTER C
    44 LATIN CAPITAL LETTER D
    45 LATIN CAPITAL LETTER E
    46 LATIN CAPITAL LETTER F
    47 LATIN CAPITAL LETTER G
    48 LATIN CAPITAL LETTER H
    49 LATIN CAPITAL LETTER I
    4a LATIN CAPITAL LETTER J
    4b LATIN CAPITAL LETTER K
    4c LATIN CAPITAL LETTER L
    4d LATIN CAPITAL LETTER M
    4e LATIN CAPITAL LETTER N
    4f LATIN CAPITAL LETTER O
    50 LATIN CAPITAL LETTER P
    51 LATIN CAPITAL LETTER Q
    52 LATIN CAPITAL LETTER R
    53 LATIN CAPITAL LETTER S
    54 LATIN CAPITAL LETTER T
    55 LATIN CAPITAL LETTER U
    56 LATIN CAPITAL LETTER V
    57 LATIN CAPITAL LETTER W
    58 LATIN CAPITAL LETTER X
    59 LATIN CAPITAL LETTER Y
    5a LATIN CAPITAL LETTER Z
    5b LEFT SQUARE BRACKET
    5c REVERSE SOLIDUS
    5d RIGHT SQUARE BRACKET
    5e CIRCUMFLEX ACCENT
    5f LOW LINE
    60 GRAVE ACCENT
    61 LATIN SMALL LETTER A
    62 LATIN SMALL LETTER B
    63 LATIN SMALL LETTER C
    64 LATIN SMALL LETTER D
    65 LATIN SMALL LETTER E
    66 LATIN SMALL LETTER F
    67 LATIN SMALL LETTER G
    68 LATIN SMALL LETTER H
    69 LATIN SMALL LETTER I
    6a LATIN SMALL LETTER J
    6b LATIN SMALL LETTER K
    6c LATIN SMALL LETTER L
    6d LATIN SMALL LETTER M
    6e LATIN SMALL LETTER N
    6f LATIN SMALL LETTER O
    70 LATIN SMALL LETTER P
    71 LATIN SMALL LETTER Q
    72 LATIN SMALL LETTER R
    73 LATIN SMALL LETTER S
    74 LATIN SMALL LETTER T
    75 LATIN SMALL LETTER U
    76 LATIN SMALL LETTER V
    77 LATIN SMALL LETTER W
    78 LATIN SMALL LETTER X
    79 LATIN SMALL LETTER Y
    7a LATIN SMALL LETTER Z
    7b LEFT CURLY BRACKET
    7c VERTICAL LINE
    7d RIGHT CURLY BRACKET
    7e TILDE
    a0 NO-BREAK SPACE
    a1 INVERTED EXCLAMATION MARK
    a2 CENT SIGN
    a3 POUND SIGN
    a4 CURRENCY SIGN
    a5 YEN SIGN
    a6 BROKEN BAR
    a7 SECTION SIGN
    a8 DIAERESIS
    a9 COPYRIGHT SIGN
    aa FEMININE ORDINAL INDICATOR
    ab LEFT-POINTING DOUBLE ANGLE QUOTATION MARK
    ac NOT SIGN
    ad SOFT HYPHEN
    ae REGISTERED SIGN
    af MACRON
    b0 DEGREE SIGN
    b1 PLUS-MINUS SIGN
    b2 SUPERSCRIPT TWO
    b3 SUPERSCRIPT THREE
    b4 ACUTE ACCENT
    b5 MICRO SIGN
    b6 PILCROW SIGN
    b7 MIDDLE DOT
    b8 CEDILLA
    b9 SUPERSCRIPT ONE
    ba MASCULINE ORDINAL INDICATOR
    bb RIGHT-POINTING DOUBLE ANGLE QUOTATION MARK
    bc VULGAR FRACTION ONE QUARTER
    bd VULGAR FRACTION ONE HALF
    be VULGAR FRACTION THREE QUARTERS
    bf INVERTED QUESTION MARK
    c0 LATIN CAPITAL LETTER A WITH GRAVE
    c1 LATIN CAPITAL LETTER A WITH ACUTE
    c2 LATIN CAPITAL LETTER A WITH CIRCUMFLEX
    c3 LATIN CAPITAL LETTER A WITH TILDE
    c4 LATIN CAPITAL LETTER A WITH DIAERESIS
    c5 LATIN CAPITAL LETTER A WITH RING ABOVE
    c6 LATIN CAPITAL LETTER AE
    c7 LATIN CAPITAL LETTER C WITH CEDILLA
    c8 LATIN CAPITAL LETTER E WITH GRAVE
    c9 LATIN CAPITAL LETTER E WITH ACUTE
    ca LATIN CAPITAL LETTER E WITH CIRCUMFLEX
    cb LATIN CAPITAL LETTER E WITH DIAERESIS
    cc LATIN CAPITAL LETTER I WITH GRAVE
    cd LATIN CAPITAL LETTER I WITH ACUTE
    ce LATIN CAPITAL LETTER I WITH CIRCUMFLEX
    cf LATIN CAPITAL LETTER I WITH DIAERESIS
    d0 LATIN CAPITAL LETTER ETH
    d1 LATIN CAPITAL LETTER N WITH TILDE
    d2 LATIN CAPITAL LETTER O WITH GRAVE
    d3 LATIN CAPITAL LETTER O WITH ACUTE
    d4 LATIN CAPITAL LETTER O WITH CIRCUMFLEX
    d5 LATIN CAPITAL LETTER O WITH TILDE
    d6 LATIN CAPITAL LETTER O WITH DIAERESIS
    d7 MULTIPLICATION SIGN
    d8 LATIN CAPITAL LETTER O WITH STROKE
    d9 LATIN CAPITAL LETTER U WITH GRAVE
    da LATIN CAPITAL LETTER U WITH ACUTE
    db LATIN CAPITAL LETTER U WITH CIRCUMFLEX
    dc LATIN CAPITAL LETTER U WITH DIAERESIS
    dd LATIN CAPITAL LETTER Y WITH ACUTE
    de LATIN CAPITAL LETTER THORN
    df LATIN SMALL LETTER SHARP S
    e0 LATIN SMALL LETTER A WITH GRAVE
    e1 LATIN SMALL LETTER A WITH ACUTE
    e2 LATIN SMALL LETTER A WITH CIRCUMFLEX
    e3 LATIN SMALL LETTER A WITH TILDE
    e4 LATIN SMALL LETTER A WITH DIAERESIS
    e5 LATIN SMALL LETTER A WITH RING ABOVE
    e6 LATIN SMALL LETTER AE
    e7 LATIN SMALL LETTER C WITH CEDILLA
    e8 LATIN SMALL LETTER E WITH GRAVE
    e9 LATIN SMALL LETTER E WITH ACUTE
    ea LATIN SMALL LETTER E WITH CIRCUMFLEX
    eb LATIN SMALL LETTER E WITH DIAERESIS
    ec LATIN SMALL LETTER I WITH GRAVE
    ed LATIN SMALL LETTER I WITH ACUTE
    ee LATIN SMALL LETTER I WITH CIRCUMFLEX
    ef LATIN SMALL LETTER I WITH DIAERESIS
    f0 LATIN SMALL LETTER ETH
    f1 LATIN SMALL LETTER N WITH TILDE
    f2 LATIN SMALL LETTER O WITH GRAVE
    f3 LATIN SMALL LETTER O WITH ACUTE
    f4 LATIN SMALL LETTER O WITH CIRCUMFLEX
    f5 LATIN SMALL LETTER O WITH TILDE
    f6 LATIN SMALL LETTER O WITH DIAERESIS
    f7 DIVISION SIGN
    f8 LATIN SMALL LETTER O WITH STROKE
    f9 LATIN SMALL LETTER U WITH GRAVE
    fa LATIN SMALL LETTER U WITH ACUTE
    fb LATIN SMALL LETTER U WITH CIRCUMFLEX
    fc LATIN SMALL LETTER U WITH DIAERESIS
    fd LATIN SMALL LETTER Y WITH ACUTE
    fe LATIN SMALL LETTER THORN
    ff LATIN SMALL LETTER Y WITH DIAERESIS
    100 LATIN CAPITAL LETTER A WITH MACRON
    101 LATIN SMALL LETTER A WITH MACRON
    102 LATIN CAPITAL LETTER A WITH BREVE
    103 LATIN SMALL LETTER A WITH BREVE
    104 LATIN CAPITAL LETTER A WITH OGONEK
    105 LATIN SMALL LETTER A WITH OGONEK
    106 LATIN CAPITAL LETTER C WITH ACUTE
    107 LATIN SMALL LETTER C WITH ACUTE
    108 LATIN CAPITAL LETTER C WITH CIRCUMFLEX
    109 LATIN SMALL LETTER C WITH CIRCUMFLEX
    10a LATIN CAPITAL LETTER C WITH DOT ABOVE
    10b LATIN SMALL LETTER C WITH DOT ABOVE
    10c LATIN CAPITAL LETTER C WITH CARON
    10d LATIN SMALL LETTER C WITH CARON
    10e LATIN CAPITAL LETTER D WITH CARON
    10f LATIN SMALL LETTER D WITH CARON
    110 LATIN CAPITAL LETTER D WITH STROKE
    111 LATIN SMALL LETTER D WITH STROKE
    112 LATIN CAPITAL LETTER E WITH MACRON
    113 LATIN SMALL LETTER E WITH MACRON
    114 LATIN CAPITAL LETTER E WITH BREVE
    115 LATIN SMALL LETTER E WITH BREVE
    116 LATIN CAPITAL LETTER E WITH DOT ABOVE
    117 LATIN SMALL LETTER E WITH DOT ABOVE
    118 LATIN CAPITAL LETTER E WITH OGONEK
    119 LATIN SMALL LETTER E WITH OGONEK
    11a LATIN CAPITAL LETTER E WITH CARON
    11b LATIN SMALL LETTER E WITH CARON
    11c LATIN CAPITAL LETTER G WITH CIRCUMFLEX
    11d LATIN SMALL LETTER G WITH CIRCUMFLEX
    11e LATIN CAPITAL LETTER G WITH BREVE
    11f LATIN SMALL LETTER G WITH BREVE
    120 LATIN CAPITAL LETTER G WITH DOT ABOVE
    121 LATIN SMALL LETTER G WITH DOT ABOVE
    122 LATIN CAPITAL LETTER G WITH CEDILLA
    123 LATIN SMALL LETTER G WITH CEDILLA
    124 LATIN CAPITAL LETTER H WITH CIRCUMFLEX
    125 LATIN SMALL LETTER H WITH CIRCUMFLEX
    126 LATIN CAPITAL LETTER H WITH STROKE
    127 LATIN SMALL LETTER H WITH STROKE
    128 LATIN CAPITAL LETTER I WITH TILDE
    129 LATIN SMALL LETTER I WITH TILDE
    12a LATIN CAPITAL LETTER I WITH MACRON
    12b LATIN SMALL LETTER I WITH MACRON
    12c LATIN CAPITAL LETTER I WITH BREVE
    12d LATIN SMALL LETTER I WITH BREVE
    12e LATIN CAPITAL LETTER I WITH OGONEK
    12f LATIN SMALL LETTER I WITH OGONEK
    130 LATIN CAPITAL LETTER I WITH DOT ABOVE
    131 LATIN SMALL LETTER DOTLESS I
    132 LATIN CAPITAL LIGATURE IJ
    133 LATIN SMALL LIGATURE IJ
    134 LATIN CAPITAL LETTER J WITH CIRCUMFLEX
    135 LATIN SMALL LETTER J WITH CIRCUMFLEX
    136 LATIN CAPITAL LETTER K WITH CEDILLA
    137 LATIN SMALL LETTER K WITH CEDILLA
    138 LATIN SMALL LETTER KRA
    139 LATIN CAPITAL LETTER L WITH ACUTE
    13a LATIN SMALL LETTER L WITH ACUTE
    13b LATIN CAPITAL LETTER L WITH CEDILLA
    13c LATIN SMALL LETTER L WITH CEDILLA
    13d LATIN CAPITAL LETTER L WITH CARON
    13e LATIN SMALL LETTER L WITH CARON
    13f LATIN CAPITAL LETTER L WITH MIDDLE DOT
    140 LATIN SMALL LETTER L WITH MIDDLE DOT
    141 LATIN CAPITAL LETTER L WITH STROKE
    142 LATIN SMALL LETTER L WITH STROKE
    143 LATIN CAPITAL LETTER N WITH ACUTE
    144 LATIN SMALL LETTER N WITH ACUTE
    145 LATIN CAPITAL LETTER N WITH CEDILLA
    146 LATIN SMALL LETTER N WITH CEDILLA
    147 LATIN CAPITAL LETTER N WITH CARON
    148 LATIN SMALL LETTER N WITH CARON
    149 LATIN SMALL LETTER N PRECEDED BY APOSTROPHE
    14a LATIN CAPITAL LETTER ENG
    14b LATIN SMALL LETTER ENG
    14c LATIN CAPITAL LETTER O WITH MACRON
    14d LATIN SMALL LETTER O WITH MACRON
    14e LATIN CAPITAL LETTER O WITH BREVE
    14f LATIN SMALL LETTER O WITH BREVE
    150 LATIN CAPITAL LETTER O WITH DOUBLE ACUTE
    151 LATIN SMALL LETTER O WITH DOUBLE ACUTE
    152 LATIN CAPITAL LIGATURE OE
    153 LATIN SMALL LIGATURE OE
    154 LATIN CAPITAL LETTER R WITH ACUTE
    155 LATIN SMALL LETTER R WITH ACUTE
    156 LATIN CAPITAL LETTER R WITH CEDILLA
    157 LATIN SMALL LETTER R WITH CEDILLA
    158 LATIN CAPITAL LETTER R WITH CARON
    159 LATIN SMALL LETTER R WITH CARON
    15a LATIN CAPITAL LETTER S WITH ACUTE
    15b LATIN SMALL LETTER S WITH ACUTE
    15c LATIN CAPITAL LETTER S WITH CIRCUMFLEX
    15d LATIN SMALL LETTER S WITH CIRCUMFLEX
    15e LATIN CAPITAL LETTER S WITH CEDILLA
    15f LATIN SMALL LETTER S WITH CEDILLA
    160 LATIN CAPITAL LETTER S WITH CARON
    161 LATIN SMALL LETTER S WITH CARON
    162 LATIN CAPITAL LETTER T WITH CEDILLA
    163 LATIN SMALL LETTER T WITH CEDILLA
    164 LATIN CAPITAL LETTER T WITH CARON
    165 LATIN SMALL LETTER T WITH CARON
    166 LATIN CAPITAL LETTER T WITH STROKE
    167 LATIN SMALL LETTER T WITH STROKE
    168 LATIN CAPITAL LETTER U WITH TILDE
    169 LATIN SMALL LETTER U WITH TILDE
    16a LATIN CAPITAL LETTER U WITH MACRON
    16b LATIN SMALL LETTER U WITH MACRON
    16c LATIN CAPITAL LETTER U WITH BREVE
    16d LATIN SMALL LETTER U WITH BREVE
    16e LATIN CAPITAL LETTER U WITH RING ABOVE
    16f LATIN SMALL LETTER U WITH RING ABOVE
    170 LATIN CAPITAL LETTER U WITH DOUBLE ACUTE
    171 LATIN SMALL LETTER U WITH DOUBLE ACUTE
    172 LATIN CAPITAL LETTER U WITH OGONEK
    173 LATIN SMALL LETTER U WITH OGONEK
    174 LATIN CAPITAL LETTER W WITH CIRCUMFLEX
    175 LATIN SMALL LETTER W WITH CIRCUMFLEX
    176 LATIN CAPITAL LETTER Y WITH CIRCUMFLEX
    177 LATIN SMALL LETTER Y WITH CIRCUMFLEX
    178 LATIN CAPITAL LETTER Y WITH DIAERESIS
    179 LATIN CAPITAL LETTER Z WITH ACUTE
    17a LATIN SMALL LETTER Z WITH ACUTE
    17b LATIN CAPITAL LETTER Z WITH DOT ABOVE
    17c LATIN SMALL LETTER Z WITH DOT ABOVE
    17d LATIN CAPITAL LETTER Z WITH CARON
    17e LATIN SMALL LETTER Z WITH CARON
    17f LATIN SMALL LETTER LONG S
    300 COMBINING GRAVE ACCENT
    301 COMBINING ACUTE ACCENT
    302 COMBINING CIRCUMFLEX ACCENT
    303 COMBINING TILDE
    304 COMBINING MACRON
    305 COMBINING OVERLINE
    306 COMBINING BREVE
    307 COMBINING DOT ABOVE
    308 COMBINING DIAERESIS
    309 COMBINING HOOK ABOVE
    30a COMBINING RING ABOVE
    30b COMBINING DOUBLE ACUTE ACCENT
    30c COMBINING CARON
    30d COMBINING VERTICAL LINE ABOVE
    30e COMBINING DOUBLE VERTICAL LINE ABOVE
    30f COMBINING DOUBLE GRAVE ACCENT
    310 COMBINING CANDRABINDU
    311 COMBINING INVERTED BREVE
    312 COMBINING TURNED COMMA ABOVE
    313 COMBINING COMMA ABOVE
    314 COMBINING REVERSED COMMA ABOVE
    315 COMBINING COMMA ABOVE RIGHT
    391 GREEK CAPITAL LETTER ALPHA
    392 GREEK CAPITAL LETTER BETA
    393 GREEK CAPITAL LETTER GAMMA
    394 GREEK CAPITAL LETTER DELTA
    395 GREEK CAPITAL LETTER EPSILON
    396 GREEK CAPITAL LETTER ZETA
    397 GREEK CAPITAL LETTER ETA
    398 GREEK CAPITAL LETTER THETA
    399 GREEK CAPITAL LETTER IOTA
    39a GREEK CAPITAL LETTER KAPPA
    39b GREEK CAPITAL LETTER LAMDA
    39c GREEK CAPITAL LETTER MU
    39d GREEK CAPITAL LETTER NU
    39e GREEK CAPITAL LETTER XI
    39f GREEK CAPITAL LETTER OMICRON
    3a0 GREEK CAPITAL LETTER PI
    3a1 GREEK CAPITAL LETTER RHO
    3a3 GREEK CAPITAL LETTER SIGMA
    3a4 GREEK CAPITAL LETTER TAU
    3a5 GREEK CAPITAL LETTER UPSILON
    3a6 GREEK CAPITAL LETTER PHI
    3a7 GREEK CAPITAL LETTER CHI
    3a8 GREEK CAPITAL LETTER PSI
    3a9 GREEK CAPITAL LETTER OMEGA
    3aa GREEK CAPITAL LETTER IOTA WITH DIALYTIKA
    3ab GREEK CAPITAL LETTER UPSILON WITH DIALYTIKA
    3ac GREEK SMALL LETTER ALPHA WITH TONOS
    3ad GREEK SMALL LETTER EPSILON WITH TONOS
    3ae GREEK SMALL LETTER ETA WITH TONOS
    3af GREEK SMALL LETTER IOTA WITH TONOS
    3b0 GREEK SMALL LETTER UPSILON WITH DIALYTIKA AND TONOS
    3b1 GREEK SMALL LETTER ALPHA
    3b2 GREEK SMALL LETTER BETA
    3b3 GREEK SMALL LETTER GAMMA
    3b4 GREEK SMALL LETTER DELTA
    3b5 GREEK SMALL LETTER EPSILON
    3b6 GREEK SMALL LETTER ZETA
    3b7 GREEK SMALL LETTER ETA
    3b8 GREEK SMALL LETTER THETA
    3b9 GREEK SMALL LETTER IOTA
    3ba GREEK SMALL LETTER KAPPA
    3bb GREEK SMALL LETTER LAMDA
    3bc GREEK SMALL LETTER MU
    3bd GREEK SMALL LETTER NU
    3be GREEK SMALL LETTER XI
    3bf GREEK SMALL LETTER OMICRON
    3c0 GREEK SMALL LETTER PI
    3c1 GREEK SMALL LETTER RHO
    3c2 GREEK SMALL LETTER FINAL SIGMA
    3c3 GREEK SMALL LETTER SIGMA
    3c4 GREEK SMALL LETTER TAU
    3c5 GREEK SMALL LETTER UPSILON
    3c6 GREEK SMALL LETTER PHI
    3c7 GREEK SMALL LETTER CHI
    3c8 GREEK SMALL LETTER PSI
    3c9 GREEK SMALL LETTER OMEGA
    410 CYRILLIC CAPITAL LETTER A
    411 CYRILLIC CAPITAL LETTER BE
    412 CYRILLIC CAPITAL LETTER VE
    413 CYRILLIC CAPITAL LETTER GHE
    414 CYRILLIC CAPITAL LETTER DE
    415 CYRILLIC CAPITAL LETTER IE
    416 CYRILLIC CAPITAL LETTER ZHE
    417 CYRILLIC CAPITAL LETTER ZE
    418 CYRILLIC CAPITAL LETTER I
    419 CYRILLIC CAPITAL LETTER SHORT I
    41a CYRILLIC CAPITAL LETTER KA
    41b CYRILLIC CAPITAL LETTER EL
    41c CYRILLIC CAPITAL LETTER EM
    41d CYRILLIC CAPITAL LETTER EN
    41e CYRILLIC CAPITAL LETTER O
    41f CYRILLIC CAPITAL LETTER PE
    420 CYRILLIC CAPITAL LETTER ER
    421 CYRILLIC CAPITAL LETTER ES
    422 CYRILLIC CAPITAL LETTER TE
    423 CYRILLIC CAPITAL LETTER U
    424 CYRILLIC CAPITAL LETTER EF
    425 CYRILLIC CAPITAL LETTER HA
    426 CYRILLIC CAPITAL LETTER TSE
    427 CYRILLIC CAPITAL LETTER CHE
    428 CYRILLIC CAPITAL LETTER SHA
    429 CYRILLIC CAPITAL LETTER SHCHA
    42a CYRILLIC CAPITAL LETTER HARD SIGN
    42b CYRILLIC CAPITAL LETTER YERU
    42c CYRILLIC CAPITAL LETTER SOFT SIGN
    42d CYRILLIC CAPITAL LETTER E
    42e CYRILLIC CAPITAL LETTER YU
    42f CYRILLIC CAPITAL LETTER YA
    430 CYRILLIC SMALL LETTER A
    431 CYRILLIC SMALL LETTER BE
    432 CYRILLIC SMALL LETTER VE
    433 CYRILLIC SMALL LETTER GHE
    434 CYRILLIC SMALL LETTER DE
    435 CYRILLIC SMALL LETTER IE
    436 CYRILLIC SMALL LETTER ZHE
    437 CYRILLIC SMALL LETTER ZE
    438 CYRILLIC SMALL LETTER I
    439 CYRILLIC SMALL LETTER SHORT I
    43a CYRILLIC SMALL LETTER KA
    43b CYRILLIC SMALL LETTER EL
    43c CYRILLIC SMALL LETTER EM
    43d CYRILLIC SMALL LETTER EN
    43e CYRILLIC SMALL LETTER O
    43f CYRILLIC SMALL LETTER PE
    440 CYRILLIC SMALL LETTER ER
    441 CYRILLIC SMALL LETTER ES
    442 CYRILLIC SMALL LETTER TE
    443 CYRILLIC SMALL LETTER U
    444 CYRILLIC SMALL LETTER EF
    445 CYRILLIC SMALL LETTER HA
    446 CYRILLIC SMALL LETTER TSE
    447 CYRILLIC SMALL LETTER CHE
    448 CYRILLIC SMALL LETTER SHA
    449 CYRILLIC SMALL LETTER SHCHA
    44a CYRILLIC SMALL LETTER HARD SIGN
    44b CYRILLIC SMALL LETTER YERU
    44c CYRILLIC SMALL LETTER SOFT SIGN
    44d CYRILLIC SMALL LETTER E
    44e CYRILLIC SMALL LETTER YU
    44f CYRILLIC SMALL LETTER YA
    2000 EN QUAD
    2001 EM QUAD
    2002 EN SPACE
    2003 EM SPACE
    2004 THREE-PER-EM SPACE
    2005 FOUR-PER-EM SPACE
    2006 SIX-PER-EM SPACE
    2007 FIGURE SPACE
    2008 PUNCTUATION SPACE
    2009 THIN SPACE
    200a HAIR SPACE
    200b ZERO WIDTH SPACE
    200c ZERO WIDTH NON-JOINER
    200d ZERO WIDTH JOINER
    200e LEFT-TO-RIGHT MARK
    200f RIGHT-TO-LEFT MARK
    2010 HYPHEN
    2011 NON-BREAKING HYPHEN
    2012 FIGURE DASH
    2013 EN DASH
    2014 EM DASH
    2015 HORIZONTAL BAR
    2016 DOUBLE VERTICAL LINE
    2017 DOUBLE LOW LINE
    2018 LEFT SINGLE QUOTATION MARK
    2019 RIGHT SINGLE QUOTATION MARK
    201a SINGLE LOW-9 QUOTATION MARK
    201b SINGLE HIGH-REVERSED-9 QUOTATION MARK
    201c LEFT DOUBLE QUOTATION MARK
    201d RIGHT DOUBLE QUOTATION MARK
    201e DOUBLE LOW-9 QUOTATION MARK
    201f DOUBLE HIGH-REVERSED-9 QUOTATION MARK
    2020 DAGGER
    2021 DOUBLE DAGGER
    2022 BULLET
    2023 TRIANGULAR BULLET
    2024 ONE DOT LEADER
    2025 TWO DOT LEADER
    2026 HORIZONTAL ELLIPSIS
    2027 HYPHENATION POINT
    2028 LINE SEPARATOR
    2029 PARAGRAPH SEPARATOR
    202a LEFT-TO-RIGHT EMBEDDING
    202b RIGHT-TO-LEFT EMBEDDING
    202c POP DIRECTIONAL FORMATTING
    202d LEFT-TO-RIGHT OVERRIDE
    202e RIGHT-TO-LEFT OVERRIDE
    202f NARROW NO-BREAK SPACE
    2030 PER MILLE SIGN
    2031 PER TEN THOUSAND SIGN
    2032 PRIME
    2033 DOUBLE PRIME
    2034 TRIPLE PRIME
    2035 REVERSED PRIME
    2036 REVERSED DOUBLE PRIME
    2037 REVERSED TRIPLE PRIME
    2038 CARET
    2039 SINGLE LEFT-POINTING ANGLE QUOTATION MARK
    203a SINGLE RIGHT-POINTING ANGLE QUOTATION MARK
    203b REFERENCE MARK
    203c DOUBLE EXCLAMATION MARK
    203d INTERROBANG
    203e OVERLINE
    203f UNDERTIE
    2040 CHARACTER TIE
    2041 CARET INSERTION POINT
    2042 ASTERISM
    2043 HYPHEN BULLET
    2044 FRACTION SLASH
    2045 LEFT SQUARE BRACKET WITH QUILL
    2046 RIGHT SQUARE BRACKET WITH QUILL
    2047 DOUBLE QUESTION MARK
    2048 QUESTION EXCLAMATION MARK
    2049 EXCLAMATION QUESTION MARK
    204a TIRONIAN SIGN ET
    204b REVERSED PILCROW SIGN
    204c BLACK LEFTWARDS BULLET
    204d BLACK RIGHTWARDS BULLET
    204e LOW ASTERISK
    204f REVERSED SEMICOLON
    2050 CLOSE UP
    2051 TWO ASTERISKS ALIGNED VERTICALLY
    2052 COMMERCIAL MINUS SIGN
    2053 SWUNG DASH
    2054 INVERTED UNDERTIE
    2055 FLOWER PUNCTUATION MARK
    2056 THREE DOT PUNCTUATION
    2057 QUADRUPLE PRIME
    2058 FOUR DOT PUNCTUATION
    2059 FIVE DOT PUNCTUATION
    205a TWO DOT PUNCTUATION
    205b FOUR DOT MARK
    205c DOTTED CROSS
    205d TRICOLON
    205e VERTICAL FOUR DOTS
    205f MEDIUM MATHEMATICAL SPACE
    2060 WORD JOINER
    2061 FUNCTION APPLICATION
    2062 INVISIBLE TIMES
    2063 INVISIBLE SEPARATOR
    2064 INVISIBLE PLUS
    2066 LEFT-TO-RIGHT ISOLATE
    2067 RIGHT-TO-LEFT ISOLATE
    2068 FIRST STRONG ISOLATE
    2069 POP DIRECTIONAL ISOLATE
    206a INHIBIT SYMMETRIC SWAPPING
    206b ACTIVATE SYMMETRIC SWAPPING
    206c INHIBIT ARABIC FORM SHAPING
    206d ACTIVATE ARABIC FORM SHAPING
    206e NATIONAL DIGIT SHAPES
    206f NOMINAL DIGIT SHAPES
    20a0 EURO-CURRENCY SIGN
    20a1 COLON SIGN
    20a2 CRUZEIRO SIGN
    20a3 FRENCH FRANC SIGN
    20a4 LIRA SIGN
    20a5 MILL SIGN
    20a6 NAIRA SIGN
    20a7 PESETA SIGN
    20a8 RUPEE SIGN
    20a9 WON SIGN
    20aa NEW SHEQEL SIGN
    20ab DONG SIGN
    20ac EURO SIGN
    20ad KIP SIGN
    20ae TUGRIK SIGN
    20af DRACHMA SIGN
    20b0 GERMAN PENNY SIGN
    20b1 PESO SIGN
    20b2 GUARANI SIGN
    20b3 AUSTRAL SIGN
    20b4 HRYVNIA SIGN
    20b5 CEDI SIGN
    20b6 LIVRE TOURNOIS SIGN
    20b7 SPESMILO SIGN
    20b8 TENGE SIGN
    20b9 INDIAN RUPEE SIGN
    20ba TURKISH LIRA SIGN
    20bb NORDIC MARK SIGN
    20bc MANAT SIGN
    20bd RUBLE SIGN
    20be LARI SIGN
    20bf BITCOIN SIGN
    2100 ACCOUNT OF
    2101 ADDRESSED TO THE SUBJECT
    2102 DOUBLE-STRUCK CAPITAL C
    2103 DEGREE CELSIUS
    2104 CENTRE LINE SYMBOL
    2105 CARE OF
    2106 CADA UNA
    2107 EULER CONSTANT
    2108 SCRUPLE
    2109 DEGREE FAHRENHEIT
    210a SCRIPT SMALL G
    210b SCRIPT CAPITAL H
    210c BLACK-LETTER CAPITAL H
    210d DOUBLE-STRUCK CAPITAL H
    210e PLANCK CONSTANT
    210f PLANCK CONSTANT OVER TWO PI
    2110 SCRIPT CAPITAL I
    2111 BLACK-LETTER CAPITAL I
    2112 SCRIPT CAPITAL L
    2113 SCRIPT SMALL L
    2114 L B BAR SYMBOL
    2115 DOUBLE-STRUCK CAPITAL N
    2116 NUMERO SIGN
    2117 SOUND RECORDING COPYRIGHT
    2118 SCRIPT CAPITAL P
    2119 DOUBLE-STRUCK CAPITAL P
    211a DOUBLE-STRUCK CAPITAL Q
    211b SCRIPT CAPITAL R
    211c BLACK-LETTER CAPITAL R
    211d DOUBLE-STRUCK CAPITAL R
    211e PRESCRIPTION TAKE
    211f RESPONSE
    2120 SERVICE MARK
    2121 TELEPHONE SIGN
    2122 TRADE MARK SIGN
    2123 VERSICLE
    2124 DOUBLE-STRUCK CAPITAL Z
    2125 OUNCE SIGN
    2126 OHM SIGN
    2127 INVERTED OHM SIGN
    2128 BLACK-LETTER CAPITAL Z
    2129 TURNED GREEK SMALL LETTER IOTA
    212a KELVIN SIGN
    212b ANGSTROM SIGN
    212c SCRIPT CAPITAL B
    212d BLACK-LETTER CAPITAL C
    212e ESTIMATED SYMBOL
    212f SCRIPT SMALL E
    2130 SCRIPT CAPITAL E
    2131 SCRIPT CAPITAL F
    2132 TURNED CAPITAL F
    2133 SCRIPT CAPITAL M
    2134 SCRIPT SMALL O
    2135 ALEF SYMBOL
    2136 BET SYMBOL
    2137 GIMEL SYMBOL
    2138 DALET SYMBOL
    2190 LEFTWARDS ARROW
    2191 UPWARDS ARROW
    2192 RIGHTWARDS ARROW
    2193 DOWNWARDS ARROW
    2194 LEFT RIGHT ARROW
    2195 UP DOWN ARROW
    2196 NORTH WEST ARROW
    2197 NORTH EAST ARROW
    2198 SOUTH EAST ARROW
    2199 SOUTH WEST ARROW
    21d0 LEFTWARDS DOUBLE ARROW
    21d1 UPWARDS DOUBLE ARROW
    21d2 RIGHTWARDS DOUBLE ARROW
    21d3 DOWNWARDS DOUBLE ARROW
    21d4 LEFT RIGHT DOUBLE ARROW
    21d5 UP DOWN DOUBLE ARROW
    2200 FOR ALL
    2201 COMPLEMENT
    2202 PARTIAL DIFFERENTIAL
    2203 THERE EXISTS
    2204 THERE DOES NOT EXIST
    2205 EMPTY SET
    2206 INCREMENT
    2207 NABLA
    2208 ELEMENT OF
    2209 NOT AN ELEMENT OF
    220a SMALL ELEMENT OF
    220b CONTAINS AS MEMBER
    220c DOES NOT CONTAIN AS MEMBER
    220d SMALL CONTAINS AS MEMBER
    220e END OF PROOF
    220f N-ARY PRODUCT
    2210 N-ARY COPRODUCT
    2211 N-ARY SUMMATION
    2212 MINUS SIGN
    2213 MINUS-OR-PLUS SIGN
    2214 DOT PLUS
    2215 DIVISION SLASH
    2216 SET MINUS
    2217 ASTERISK OPERATOR
    2218 RING OPERATOR
    2219 BULLET OPERATOR
    221a SQUARE ROOT
    221b CUBE ROOT
    221c FOURTH ROOT
    221d PROPORTIONAL TO
    221e INFINITY
    221f RIGHT ANGLE
    2220 ANGLE
    2221 MEASURED ANGLE
    2222 SPHERICAL ANGLE
    2223 DIVIDES
    2224 DOES NOT DIVIDE
    2225 PARALLEL TO
    2226 NOT PARALLEL TO
    2227 LOGICAL AND
    2228 LOGICAL OR
    2229 INTERSECTION
    222a UNION
    222b INTEGRAL
    222c DOUBLE INTEGRAL
    222d TRIPLE INTEGRAL
    222e CONTOUR INTEGRAL
    222f SURFACE INTEGRAL
    2230 VOLUME INTEGRAL
    2231 CLOCKWISE INTEGRAL
    2232 CLOCKWISE CONTOUR INTEGRAL
    2233 ANTICLOCKWISE CONTOUR INTEGRAL
    2234 THEREFORE
    2235 BECAUSE
    2236 RATIO
    2237 PROPORTION
    2238 DOT MINUS
    2239 EXCESS
    223a GEOMETRIC PROPORTION
    223b HOMOTHETIC
    223c TILDE OPERATOR
    223d REVERSED TILDE
    223e INVERTED LAZY S
    223f SINE WAVE
    2240 WREATH PRODUCT
    2241 NOT TILDE
    2242 MINUS TILDE
    2243 ASYMPTOTICALLY EQUAL TO
    2244 NOT ASYMPTOTICALLY EQUAL TO
    2245 APPROXIMATELY EQUAL TO
    2246 APPROXIMATELY BUT NOT ACTUALLY EQUAL TO
    2247 NEITHER APPROXIMATELY NOR ACTUALLY EQUAL TO
    2248 ALMOST EQUAL TO
    2249 NOT ALMOST EQUAL TO
    224a ALMOST EQUAL OR EQUAL TO
    224b TRIPLE TILDE
    224c ALL EQUAL TO
    224d EQUIVALENT TO
    224e GEOMETRICALLY EQUIVALENT TO
    224f DIFFERENCE BETWEEN
    2250 APPROACHES THE LIMIT
    2251 GEOMETRICALLY EQUAL TO
    2252 APPROXIMATELY EQUAL TO OR THE IMAGE OF
    2253 IMAGE OF OR APPROXIMATELY EQUAL TO
    2254 COLON EQUALS
    2255 EQUALS COLON
    2256 RING IN EQUAL TO
    2257 RING EQUAL TO
    2258 CORRESPONDS TO
    2259 ESTIMATES
    225a EQUIANGULAR TO
    225b STAR EQUALS
    225c DELTA EQUAL TO
    225d EQUAL TO BY DEFINITION
    225e MEASURED BY
    225f QUESTIONED EQUAL TO
    2260 NOT EQUAL TO
    2261 IDENTICAL TO
    2262 NOT IDENTICAL TO
    2263 STRICTLY EQUIVALENT TO
    2264 LESS-THAN OR EQUAL TO
    2265 GREATER-THAN OR EQUAL TO
    2266 LESS-THAN OVER EQUAL TO
    2267 GREATER-THAN OVER EQUAL TO
    2268 LESS-THAN BUT NOT EQUAL TO
    2269 GREATER-THAN BUT NOT EQUAL TO
    226a MUCH LESS-THAN
    226b MUCH GREATER-THAN
    226c BETWEEN
    226d NOT EQUIVALENT TO
    226e NOT LESS-THAN
    226f NOT GREATER-THAN
    2270 NEITHER LESS-THAN NOR EQUAL TO
    2271 NEITHER GREATER-THAN NOR EQUAL TO
    2272 LESS-THAN OR EQUIVALENT TO
    2273 GREATER-THAN OR EQUIVALENT TO
    2274 NEITHER LESS-THAN NOR EQUIVALENT TO
    2275 NEITHER GREATER-THAN NOR EQUIVALENT TO
    2276 LESS-THAN OR GREATER-THAN
    2277 GREATER-THAN OR LESS-THAN
    2278 NEITHER LESS-THAN NOR GREATER-THAN
    2279 NEITHER GREATER-THAN NOR LESS-THAN
    227a PRECEDES
    227b SUCCEEDS
    227c PRECEDES OR EQUAL TO
    227d SUCCEEDS OR EQUAL TO
    227e PRECEDES OR EQUIVALENT TO
    227f SUCCEEDS OR EQUIVALENT TO
    2280 DOES NOT PRECEDE
    2281 DOES NOT SUCCEED
    2282 SUBSET OF
    2283 SUPERSET OF
    2284 NOT A SUBSET OF
    2285 NOT A SUPERSET OF
    2286 SUBSET OF OR EQUAL TO
    2287 SUPERSET OF OR EQUAL TO
    2288 NEITHER A SUBSET OF NOR EQUAL TO
    2289 NEITHER A SUPERSET OF NOR EQUAL TO
    228a SUBSET OF WITH NOT EQUAL TO
    228b SUPERSET OF WITH NOT EQUAL TO
    228c MULTISET
    228d MULTISET MULTIPLICATION
    228e MULTISET UNION
    228f SQUARE IMAGE OF
    2290 SQUARE ORIGINAL OF
    2291 SQUARE IMAGE OF OR EQUAL TO
    2292 SQUARE ORIGINAL OF OR EQUAL TO
    2293 SQUARE CAP
    2294 SQUARE CUP
    2295 CIRCLED PLUS
    2296 CIRCLED MINUS
    2297 CIRCLED TIMES
    2298 CIRCLED DIVISION SLASH
    2299 CIRCLED DOT OPERATOR
    229a CIRCLED RING OPERATOR
    229b CIRCLED ASTERISK OPERATOR
    229c CIRCLED EQUALS
    229d CIRCLED DASH
    229e SQUARED PLUS
    229f SQUARED MINUS
    22a0 SQUARED TIMES
    22a1 SQUARED DOT OPERATOR
    22a2 RIGHT TACK
    22a3 LEFT TACK
    22a4 DOWN TACK
    22a5 UP TACK
    22a6 ASSERTION
    22a7 MODELS
    22a8 TRUE
    22a9 FORCES
    22aa TRIPLE VERTICAL BAR RIGHT TURNSTILE
    22ab DOUBLE VERTICAL BAR DOUBLE RIGHT TURNSTILE
    22ac DOES NOT PROVE
    22ad NOT TRUE
    22ae DOES NOT FORCE
    22af NEGATED DOUBLE VERTICAL BAR DOUBLE RIGHT TURNSTILE
    22b0 PRECEDES UNDER RELATION
    22b1 SUCCEEDS UNDER RELATION
    22b2 NORMAL SUBGROUP OF
    22b3 CONTAINS AS NORMAL SUBGROUP
    22b4 NORMAL SUBGROUP OF OR EQUAL TO
    22b5 CONTAINS AS NORMAL SUBGROUP OR EQUAL TO
    22b6 ORIGINAL OF
    22b7 IMAGE OF
    22b8 MULTIMAP
    22b9 HERMITIAN CONJUGATE MATRIX
    22ba INTERCALATE
    22bb XOR
    22bc NAND
    22bd NOR
    22be RIGHT ANGLE WITH ARC
    22bf RIGHT TRIANGLE
    22c0 N-ARY LOGICAL AND
    22c1 N-ARY LOGICAL OR
    22c2 N-ARY INTERSECTION
    22c3 N-ARY UNION
    22c4 DIAMOND OPERATOR
    22c5 DOT OPERATOR
    22c6 STAR OPERATOR
    22c7 DIVISION TIMES
    22c8 BOWTIE
    22c9 LEFT NORMAL FACTOR SEMIDIRECT PRODUCT
    22ca RIGHT NORMAL FACTOR SEMIDIRECT PRODUCT
    22cb LEFT SEMIDIRECT PRODUCT
    22cc RIGHT SEMIDIRECT PRODUCT
    22cd REVERSED TILDE EQUALS
    22ce CURLY LOGICAL OR
    22cf CURLY LOGICAL AND
    22d0 DOUBLE SUBSET
    22d1 DOUBLE SUPERSET
    22d2 DOUBLE INTERSECTION
    22d3 DOUBLE UNION
    22d4 PITCHFORK
    22d5 EQUAL AND PARALLEL TO
    22d6 LESS-THAN WITH DOT
    22d7 GREATER-THAN WITH DOT
    22d8 VERY MUCH LESS-THAN
    22d9 VERY MUCH GREATER-THAN
    22da LESS-THAN EQUAL TO OR GREATER-THAN
    22db GREATER-THAN EQUAL TO OR LESS-THAN
    22dc EQUAL TO OR LESS-THAN
    22dd EQUAL TO OR GREATER-THAN
    22de EQUAL TO OR PRECEDES
    22df EQUAL TO OR SUCCEEDS
    22e0 DOES NOT PRECEDE OR EQUAL
    22e1 DOES NOT SUCCEED OR EQUAL
    22e2 NOT SQUARE IMAGE OF OR EQUAL TO
    22e3 NOT SQUARE ORIGINAL OF OR EQUAL TO
    22e4 SQUARE IMAGE OF OR NOT EQUAL TO
    22e5 SQUARE ORIGINAL OF OR NOT EQUAL TO
    22e6 LESS-THAN BUT NOT EQUIVALENT TO
    22e7 GREATER-THAN BUT NOT EQUIVALENT TO
    22e8 PRECEDES BUT NOT EQUIVALENT TO
    22e9 SUCCEEDS BUT NOT EQUIVALENT TO
    22ea NOT NORMAL SUBGROUP OF
    22eb DOES NOT CONTAIN AS NORMAL SUBGROUP
    22ec NOT NORMAL SUBGROUP OF OR EQUAL TO
    22ed DOES NOT CONTAIN AS NORMAL SUBGROUP OR EQUAL
    22ee VERTICAL ELLIPSIS
    22ef MIDLINE HORIZONTAL ELLIPSIS
    22f0 UP RIGHT DIAGONAL ELLIPSIS
    22f1 DOWN RIGHT DIAGONAL ELLIPSIS
    22f2 ELEMENT OF WITH LONG HORIZONTAL STROKE
    22f3 ELEMENT OF WITH VERTICAL BAR AT END OF HORIZONTAL STROKE
    22f4 SMALL ELEMENT OF WITH VERTICAL BAR AT END OF HORIZONTAL STROKE
    22f5 ELEMENT OF WITH DOT ABOVE
    22f6 ELEMENT OF WITH OVERBAR
    22f7 SMALL ELEMENT OF WITH OVERBAR
    22f8 ELEMENT OF WITH UNDERBAR
    22f9 ELEMENT OF WITH TWO HORIZONTAL STROKES
    22fa CONTAINS WITH LONG HORIZONTAL STROKE
    22fb CONTAINS WITH VERTICAL BAR AT END OF HORIZONTAL STROKE
    22fc SMALL CONTAINS WITH VERTICAL BAR AT END OF HORIZONTAL STROKE
    22fd CONTAINS WITH OVERBAR
    22fe SMALL CONTAINS WITH OVERBAR
    22ff Z NOTATION BAG MEMBERSHIP
    25a0 BLACK SQUARE
    25a1 WHITE SQUARE
    25a2 WHITE SQUARE WITH ROUNDED CORNERS
    25a3 WHITE SQUARE CONTAINING BLACK SMALL SQUARE
    25a4 SQUARE WITH HORIZONTAL FILL
    25a5 SQUARE WITH VERTICAL FILL
    25a6 SQUARE WITH ORTHOGONAL CROSSHATCH FILL
    25a7 SQUARE WITH UPPER LEFT TO LOWER RIGHT FILL
    25a8 SQUARE WITH UPPER RIGHT TO LOWER LEFT FILL
    25a9 SQUARE WITH DIAGONAL CROSSHATCH FILL
    25aa BLACK SMALL SQUARE
    25ab WHITE SMALL SQUARE
    25ac BLACK RECTANGLE
    25ad WHITE RECTANGLE
    25ae BLACK VERTICAL RECTANGLE
    25af WHITE VERTICAL RECTANGLE
    25b0 BLACK PARALLELOGRAM
    25b1 WHITE PARALLELOGRAM
    25b2 BLACK UP-POINTING TRIANGLE
    25b3 WHITE UP-POINTING TRIANGLE
    25b4 BLACK UP-POINTING SMALL TRIANGLE
    25b5 WHITE UP-POINTING SMALL TRIANGLE
    25b6 BLACK RIGHT-POINTING TRIANGLE
    25b7 WHITE RIGHT-POINTING TRIANGLE
    25b8 BLACK RIGHT-POINTING SMALL TRIANGLE
    25b9 WHITE RIGHT-POINTING SMALL TRIANGLE
    25ba BLACK RIGHT-POINTING POINTER
    25bb WHITE RIGHT-POINTING POINTER
    25bc BLACK DOWN-POINTING TRIANGLE
    25bd WHITE DOWN-POINTING TRIANGLE
    25be BLACK DOWN-POINTING SMALL TRIANGLE
    25bf WHITE DOWN-POINTING SMALL TRIANGLE
    25c0 BLACK LEFT-POINTING TRIANGLE
    25c1 WHITE LEFT-POINTING TRIANGLE
    25c2 BLACK LEFT-POINTING SMALL TRIANGLE
    25c3 WHITE LEFT-POINTING SMALL TRIANGLE
    25c4 BLACK LEFT-POINTING POINTER
    25c5 WHITE LEFT-POINTING POINTER
    25c6 BLACK DIAMOND
    25c7 WHITE DIAMOND
    25c8 WHITE DIAMOND CONTAINING BLACK SMALL DIAMOND
    25c9 FISHEYE
    25ca LOZENGE
    25cb WHITE CIRCLE
    25cc DOTTED CIRCLE
    25cd CIRCLE WITH VERTICAL FILL
    25ce BULLSEYE
    25cf BLACK CIRCLE
    25d0 CIRCLE WITH LEFT HALF BLACK
    25d1 CIRCLE WITH RIGHT HALF BLACK
    25d2 CIRCLE WITH LOWER HALF BLACK
    25d3 CIRCLE WITH UPPER HALF BLACK
    25d4 CIRCLE WITH UPPER RIGHT QUADRANT BLACK
    25d5 CIRCLE WITH ALL BUT UPPER LEFT QUADRANT BLACK
    25d6 LEFT HALF BLACK CIRCLE
    25d7 RIGHT HALF BLACK CIRCLE
    25d8 INVERSE BULLET
    25d9 INVERSE WHITE CIRCLE
    25da UPPER HALF INVERSE WHITE CIRCLE
    25db LOWER HALF INVERSE WHITE CIRCLE
    25dc UPPER LEFT QUADRANT CIRCULAR ARC
    25dd UPPER RIGHT QUADRANT CIRCULAR ARC
    25de LOWER RIGHT QUADRANT CIRCULAR ARC
    25df LOWER LEFT QUADRANT CIRCULAR ARC
    25e0 UPPER HALF CIRCLE
    25e1 LOWER HALF CIRCLE
    25e2 BLACK LOWER RIGHT TRIANGLE
    25e3 BLACK LOWER LEFT TRIANGLE
    25e4 BLACK UPPER LEFT TRIANGLE
    25e5 BLACK UPPER RIGHT TRIANGLE
    25e6 WHITE BULLET
    25e7 SQUARE WITH LEFT HALF BLACK
    25e8 SQUARE WITH RIGHT HALF BLACK
    25e9 SQUARE WITH UPPER LEFT DIAGONAL HALF BLACK
    25ea SQUARE WITH LOWER RIGHT DIAGONAL HALF BLACK
    25eb WHITE SQUARE WITH VERTICAL BISECTING LINE
    25ec WHITE UP-POINTING TRIANGLE WITH DOT
    25ed UP-POINTING TRIANGLE WITH LEFT HALF BLACK
    25ee UP-POINTING TRIANGLE WITH RIGHT HALF BLACK
    25ef LARGE CIRCLE
    25f0 WHITE SQUARE WITH UPPER LEFT QUADRANT
    25f1 WHITE SQUARE WITH LOWER LEFT QUADRANT
    25f2 WHITE SQUARE WITH LOWER RIGHT QUADRANT
    25f3 WHITE SQUARE WITH UPPER RIGHT QUADRANT
    25f4 WHITE CIRCLE WITH UPPER LEFT QUADRANT
    25f5 WHITE CIRCLE WITH LOWER LEFT QUADRANT
    25f6 WHITE CIRCLE WITH LOWER RIGHT QUADRANT
    25f7 WHITE CIRCLE WITH UPPER RIGHT QUADRANT
    25f8 UPPER LEFT TRIANGLE
    25f9 UPPER RIGHT TRIANGLE
    25fa LOWER LEFT TRIANGLE
    25fb WHITE MEDIUM SQUARE
    25fc BLACK MEDIUM SQUARE
    25fd WHITE MEDIUM SMALL SQUARE
    25fe BLACK MEDIUM SMALL SQUARE
    25ff LOWER RIGHT TRIANGLE
    2600 BLACK SUN WITH RAYS
    2601 CLOUD
    2602 UMBRELLA
    2603 SNOWMAN
    2604 COMET
    2605 BLACK STAR
    2606 WHITE STAR
    2607 LIGHTNING
    2608 THUNDERSTORM
    2609 SUN
    260a ASCENDING NODE
    260b DESCENDING NODE
    260c CONJUNCTION
    260d OPPOSITION
    260e BLACK TELEPHONE
    260f WHITE TELEPHONE
    2610 BALLOT BOX
    2611 BALLOT BOX WITH CHECK
    2612 BALLOT BOX WITH X
    2613 SALTIRE
    2614 UMBRELLA WITH RAIN DROPS
    2615 HOT BEVERAGE
    2616 WHITE SHOGI PIECE
    2617 BLACK SHOGI PIECE
    2618 SHAMROCK
    2619 REVERSED ROTATED FLORAL HEART BULLET
    261a BLACK LEFT POINTING INDEX
    261b BLACK RIGHT POINTING INDEX
    261c WHITE LEFT POINTING INDEX
    261d WHITE UP POINTING INDEX
    261e WHITE RIGHT POINTING INDEX
    261f WHITE DOWN POINTING INDEX
    2620 SKULL AND CROSSBONES
    2621 CAUTION SIGN
    2622 RADIOACTIVE SIGN
    2623 BIOHAZARD SIGN
    2624 CADUCEUS
    2625 ANKH
    2626 ORTHODOX CROSS
    2627 CHI RHO
    2628 CROSS OF LORRAINE
    2629 CROSS OF JERUSALEM
    262a STAR AND CRESCENT
    262b FARSI SYMBOL
    262c ADI SHAKTI
    262d HAMMER AND SICKLE
    262e PEACE SYMBOL
    262f YIN YANG
    2630 TRIGRAM FOR HEAVEN
    2631 TRIGRAM FOR LAKE
    2632 TRIGRAM FOR FIRE
    2633 TRIGRAM FOR THUNDER
    2634 TRIGRAM FOR WIND
    2635 TRIGRAM FOR WATER
    2636 TRIGRAM FOR MOUNTAIN
    2637 TRIGRAM FOR EARTH
    2638 WHEEL OF DHARMA
    2639 WHITE FROWNING FACE
    263a WHITE SMILING FACE
    263b BLACK SMILING FACE
    263c WHITE SUN WITH RAYS
    263d FIRST QUARTER MOON
    263e LAST QUARTER MOON
    263f MERCURY
    2640 FEMALE SIGN
    2641 EARTH
    2642 MALE SIGN
    2643 JUPITER
    2644 SATURN
    2645 URANUS
    2646 NEPTUNE
    2647 PLUTO
    2648 ARIES
    2649 TAURUS
    264a GEMINI
    264b CANCER
    264c LEO
    264d VIRGO
    264e LIBRA
    264f SCORPIUS
    2650 SAGITTARIUS
    2651 CAPRICORN
    2652 AQUARIUS
    2653 PISCES
    2654 WHITE CHESS KING
    2655 WHITE CHESS QUEEN
    2656 WHITE CHESS ROOK
    2657 WHITE CHESS BISHOP
    2658 WHITE CHESS KNIGHT
    2659 WHITE CHESS PAWN
    265a BLACK CHESS KING
    265b BLACK CHESS QUEEN
    265c BLACK CHESS ROOK
    265d BLACK CHESS BISHOP
    265e BLACK CHESS KNIGHT
    265f BLACK CHESS PAWN
    2660 BLACK SPADE SUIT
    2661 WHITE HEART SUIT
    2662 WHITE DIAMOND SUIT
    2663 BLACK CLUB SUIT
    2664 WHITE SPADE SUIT
    2665 BLACK HEART SUIT
    2666 BLACK DIAMOND SUIT
    2667 WHITE CLUB SUIT
    2668 HOT SPRINGS
    2669 QUARTER NOTE
    266a EIGHTH NOTE
    266b BEAMED EIGHTH NOTES
    266c BEAMED SIXTEENTH NOTES
    266d MUSIC FLAT SIGN
    266e MUSIC NATURAL SIGN
    266f MUSIC SHARP SIGN
    2670 WEST SYRIAC CROSS
    2671 EAST SYRIAC CROSS
    2672 UNIVERSAL RECYCLING SYMBOL
    2673 RECYCLING SYMBOL FOR TYPE-1 PLASTICS
    2674 RECYCLING SYMBOL FOR TYPE-2 PLASTICS
    2675 RECYCLING SYMBOL FOR TYPE-3 PLASTICS
    2676 RECYCLING SYMBOL FOR TYPE-4 PLASTICS
    2677 RECYCLING SYMBOL FOR TYPE-5 PLASTICS
    2678 RECYCLING SYMBOL FOR TYPE-6 PLASTICS
    2679 RECYCLING SYMBOL FOR TYPE-7 PLASTICS
    267a RECYCLING SYMBOL FOR GENERIC MATERIALS
    267b BLACK UNIVERSAL RECYCLING SYMBOL
    267c RECYCLED PAPER SYMBOL
    267d PARTIALLY-RECYCLED PAPER SYMBOL
    267e PERMANENT PAPER SIGN
    267f WHEELCHAIR SYMBOL
    2680 DIE FACE-1
    2681 DIE FACE-2
    2682 DIE FACE-3
    2683 DIE FACE-4
    2684 DIE FACE-5
    2685 DIE FACE-6
    2686 WHITE CIRCLE WITH DOT RIGHT
    2687 WHITE CIRCLE WITH TWO DOTS
    2688 BLACK CIRCLE WITH WHITE DOT RIGHT
    2689 BLACK CIRCLE WITH TWO WHITE DOTS
    268a MONOGRAM FOR YANG
    268b MONOGRAM FOR YIN
    268c DIGRAM FOR GREATER YANG
    268d DIGRAM FOR LESSER YIN
    268e DIGRAM FOR LESSER YANG
    268f DIGRAM FOR GREATER YIN
    2690 WHITE FLAG
    2691 BLACK FLAG
    2692 HAMMER AND PICK
    2693 ANCHOR
    2694 CROSSED SWORDS
    2695 STAFF OF AESCULAPIUS
    2696 SCALES
    2697 ALEMBIC
    2698 FLOWER
    2699 GEAR
    269a STAFF OF HERMES
    269b ATOM SYMBOL
    269c FLEUR-DE-LIS
    269d OUTLINED WHITE STAR
    269e THREE LINES CONVERGING RIGHT
    269f THREE LINES CONVERGING LEFT
    26a0 WARNING SIGN
    26a1 HIGH VOLTAGE SIGN
    26a2 DOUBLED FEMALE SIGN
    26a3 DOUBLED MALE SIGN
    26a4 INTERLOCKED FEMALE AND MALE SIGN
    26a5 MALE AND FEMALE SIGN
    26a6 MALE WITH STROKE SIGN
    26a7 MALE WITH STROKE AND MALE AND FEMALE SIGN
    26a8 VERTICAL MALE WITH STROKE SIGN
    26a9 HORIZONTAL MALE WITH STROKE SIGN
    26aa MEDIUM WHITE CIRCLE
    26ab MEDIUM BLACK CIRCLE
    26ac MEDIUM SMALL WHITE CIRCLE
    26ad MARRIAGE SYMBOL
    26ae DIVORCE SYMBOL
    26af UNMARRIED PARTNERSHIP SYMBOL
    26b0 COFFIN
    26b1 FUNERAL URN
    26b2 NEUTER
    26b3 CERES
    26b4 PALLAS
    26b5 JUNO
    26b6 VESTA
    26b7 CHIRON
    26b8 BLACK MOON LILITH
    26b9 SEXTILE
    26ba SEMISEXTILE
    26bb QUINCUNX
    26bc SESQUIQUADRATE
    26bd SOCCER BALL
    26be BASEBALL
    26bf SQUARED KEY
    26c0 WHITE DRAUGHTS MAN
    26c1 WHITE DRAUGHTS KING
    26c2 BLACK DRAUGHTS MAN
    26c3 BLACK DRAUGHTS KING
    26c4 SNOWMAN WITHOUT SNOW
    26c5 SUN BEHIND CLOUD
    26c6 RAIN
    26c7 BLACK SNOWMAN
    26c8 THUNDER CLOUD AND RAIN
    26c9 TURNED WHITE SHOGI PIECE
    26ca TURNED BLACK SHOGI PIECE
    26cb WHITE DIAMOND IN SQUARE
    26cc CROSSING LANES
    26cd DISABLED CAR
    26ce OPHIUCHUS
    26cf PICK
    26d0 CAR SLIDING
    26d1 HELMET WITH WHITE CROSS
    26d2 CIRCLED CROSSING LANES
    26d3 CHAINS
    26d4 NO ENTRY
    26d5 ALTERNATE ONE-WAY LEFT WAY TRAFFIC
    26d6 BLACK TWO-WAY LEFT WAY TRAFFIC
    26d7 WHITE TWO-WAY LEFT WAY TRAFFIC
    26d8 BLACK LEFT LANE MERGE
    26d9 WHITE LEFT LANE MERGE
    26da DRIVE SLOW SIGN
    26db HEAVY WHITE DOWN-POINTING TRIANGLE
    26dc LEFT CLOSED ENTRY
    26dd SQUARED SALTIRE
    26de FALLING DIAGONAL IN WHITE CIRCLE IN BLACK SQUARE
    26df BLACK TRUCK
    26e0 RESTRICTED LEFT ENTRY-1
    26e1 RESTRICTED LEFT ENTRY-2
    26e2 ASTRONOMICAL SYMBOL FOR URANUS
    26e3 HEAVY CIRCLE WITH STROKE AND TWO DOTS ABOVE
    26e4 PENTAGRAM
    26e5 RIGHT-HANDED INTERLACED PENTAGRAM
    26e6 LEFT-HANDED INTERLACED PENTAGRAM
    26e7 INVERTED PENTAGRAM
    26e8 BLACK CROSS ON SHIELD
    26e9 SHINTO SHRINE
    26ea CHURCH
    26eb CASTLE
    26ec HISTORIC SITE
    26ed GEAR WITHOUT HUB
    26ee GEAR WITH HANDLES
    26ef MAP SYMBOL FOR LIGHTHOUSE
    26f0 MOUNTAIN
    26f1 UMBRELLA ON GROUND
    26f2 FOUNTAIN
    26f3 FLAG IN HOLE
    26f4 FERRY
    26f5 SAILBOAT
    26f6 SQUARE FOUR CORNERS
    26f7 SKIER
    26f8 ICE SKATE
    26f9 PERSON WITH BALL
    26fa TENT
    26fb JAPANESE BANK SYMBOL
    26fc HEADSTONE GRAVEYARD SYMBOL
    26fd FUEL PUMP
    26fe CUP ON BLACK SQUARE
    26ff WHITE FLAG WITH HORIZONTAL MIDDLE BLACK STRIPE
    2700 BLACK SAFETY SCISSORS
    2701 UPPER BLADE SCISSORS
    2702 BLACK SCISSORS
    2703 LOWER BLADE SCISSORS
    2704 WHITE SCISSORS
    2705 WHITE HEAVY CHECK MARK
    2706 TELEPHONE LOCATION SIGN
    2707 TAPE DRIVE
    2708 AIRPLANE
    2709 ENVELOPE
    270a RAISED FIST
    270b RAISED HAND
    270c VICTORY HAND
    270d WRITING HAND
    270e LOWER RIGHT PENCIL
    270f PENCIL
    2710 UPPER RIGHT PENCIL
    2711 WHITE NIB
    2712 BLACK NIB
    2713 CHECK MARK
    2714 HEAVY CHECK MARK
    2715 MULTIPLICATION X
    2716 HEAVY MULTIPLICATION X
    2717 BALLOT X
    2718 HEAVY BALLOT X
    2719 OUTLINED GREEK CROSS
    271a HEAVY GREEK CROSS
    271b OPEN CENTRE CROSS
    271c HEAVY OPEN CENTRE CROSS
    271d LATIN CROSS
    271e SHADOWED WHITE LATIN CROSS
    271f OUTLINED LATIN CROSS
    2720 MALTESE CROSS
    2721 STAR OF DAVID
    2722 FOUR TEARDROP-SPOKED ASTERISK
    2723 FOUR BALLOON-SPOKED ASTERISK
    2724 HEAVY FOUR BALLOON-SPOKED ASTERISK
    2725 FOUR CLUB-SPOKED ASTERISK
    2726 BLACK FOUR POINTED STAR
    2727 WHITE FOUR POINTED STAR
    2728 SPARKLES
    2729 STRESS OUTLINED WHITE STAR
    272a CIRCLED WHITE STAR
    272b OPEN CENTRE BLACK STAR
    272c BLACK CENTRE WHITE STAR
    272d OUTLINED BLACK STAR
    272e HEAVY OUTLINED BLACK STAR
    272f PINWHEEL STAR
    2730 SHADOWED WHITE STAR
    2731 HEAVY ASTERISK
    2732 OPEN CENTRE ASTERISK
    2733 EIGHT SPOKED ASTERISK
    2734 EIGHT POINTED BLACK STAR
    2735 EIGHT POINTED PINWHEEL STAR
    2736 SIX POINTED BLACK STAR
    2737 EIGHT POINTED RECTILINEAR BLACK STAR
    2738 HEAVY EIGHT POINTED RECTILINEAR BLACK STAR
    2739 TWELVE POINTED BLACK STAR
    273a SIXTEEN POINTED ASTERISK
    273b TEARDROP-SPOKED ASTERISK
    273c OPEN CENTRE TEARDROP-SPOKED ASTERISK
    273d HEAVY TEARDROP-SPOKED ASTERISK
    273e SIX PETALLED BLACK AND WHITE FLORETTE
    273f BLACK FLORETTE
    2740 WHITE FLORETTE
    2741 EIGHT PETALLED OUTLINED BLACK FLORETTE
    2742 CIRCLED OPEN CENTRE EIGHT POINTED STAR
    2743 HEAVY TEARDROP-SPOKED PINWHEEL ASTERISK
    2744 SNOWFLAKE
    2745 TIGHT TRIFOLIATE SNOWFLAKE
    2746 HEAVY CHEVRON SNOWFLAKE
    2747 SPARKLE
    2748 HEAVY SPARKLE
    2749 BALLOON-SPOKED ASTERISK
    274a EIGHT TEARDROP-SPOKED PROPELLER ASTERISK
    274b HEAVY EIGHT TEARDROP-SPOKED PROPELLER ASTERISK
    274c CROSS MARK
    274d SHADOWED WHITE CIRCLE
    274e NEGATIVE SQUARED CROSS MARK
    274f LOWER RIGHT DROP-SHADOWED WHITE SQUARE
    2750 UPPER RIGHT DROP-SHADOWED WHITE SQUARE
    2751 LOWER RIGHT SHADOWED WHITE SQUARE
    2752 UPPER RIGHT SHADOWED WHITE SQUARE
    2753 BLACK QUESTION MARK ORNAMENT
    2754 WHITE QUESTION MARK ORNAMENT
    2755 WHITE EXCLAMATION MARK ORNAMENT
    2756 BLACK DIAMOND MINUS WHITE X
    2757 HEAVY EXCLAMATION MARK SYMBOL
    2758 LIGHT VERTICAL BAR
    2759 MEDIUM VERTICAL BAR
    275a HEAVY VERTICAL BAR
    275b HEAVY SINGLE TURNED COMMA QUOTATION MARK ORNAMENT
    275c HEAVY SINGLE COMMA QUOTATION MARK ORNAMENT
    275d HEAVY DOUBLE TURNED COMMA QUOTATION MARK ORNAMENT
    275e HEAVY DOUBLE COMMA QUOTATION MARK ORNAMENT
    275f HEAVY LOW SINGLE COMMA QUOTATION MARK ORNAMENT
    2760 HEAVY LOW DOUBLE COMMA QUOTATION MARK ORNAMENT
    2761 CURVED STEM PARAGRAPH SIGN ORNAMENT
    2762 HEAVY EXCLAMATION MARK ORNAMENT
    2763 HEAVY HEART EXCLAMATION MARK ORNAMENT
    2764 HEAVY BLACK HEART
    2765 ROTATED HEAVY BLACK HEART BULLET
    2766 FLORAL HEART
    2767 ROTATED FLORAL HEART BULLET
    2768 MEDIUM LEFT PARENTHESIS ORNAMENT
    2769 MEDIUM RIGHT PARENTHESIS ORNAMENT
    276a MEDIUM FLATTENED LEFT PARENTHESIS ORNAMENT
    276b MEDIUM FLATTENED RIGHT PARENTHESIS ORNAMENT
    276c MEDIUM LEFT-POINTING ANGLE BRACKET ORNAMENT
    276d MEDIUM RIGHT-POINTING ANGLE BRACKET ORNAMENT
    276e HEAVY LEFT-POINTING ANGLE QUOTATION MARK ORNAMENT
    276f HEAVY RIGHT-POINTING ANGLE QUOTATION MARK ORNAMENT
    2770 HEAVY LEFT-POINTING ANGLE BRACKET ORNAMENT
    2771 HEAVY RIGHT-POINTING ANGLE BRACKET ORNAMENT
    2772 LIGHT LEFT TORTOISE SHELL BRACKET ORNAMENT
    2773 LIGHT RIGHT TORTOISE SHELL BRACKET ORNAMENT
    2774 MEDIUM LEFT CURLY BRACKET ORNAMENT
    2775 MEDIUM RIGHT CURLY BRACKET ORNAMENT
    2776 DINGBAT NEGATIVE CIRCLED DIGIT ONE
    2777 DINGBAT NEGATIVE CIRCLED DIGIT TWO
    2778 DINGBAT NEGATIVE CIRCLED DIGIT THREE
    2779 DINGBAT NEGATIVE CIRCLED DIGIT FOUR
    277a DINGBAT NEGATIVE CIRCLED DIGIT FIVE
    277b DINGBAT NEGATIVE CIRCLED DIGIT SIX
    277c DINGBAT NEGATIVE CIRCLED DIGIT SEVEN
    277d DINGBAT NEGATIVE CIRCLED DIGIT EIGHT
    277e DINGBAT NEGATIVE CIRCLED DIGIT NINE
    277f DINGBAT NEGATIVE CIRCLED NUMBER TEN
    2780 DINGBAT CIRCLED SANS-SERIF DIGIT ONE
    2781 DINGBAT CIRCLED SANS-SERIF DIGIT TWO
    2782 DINGBAT CIRCLED SANS-SERIF DIGIT THREE
    2783 DINGBAT CIRCLED SANS-SERIF DIGIT FOUR
    2784 DINGBAT CIRCLED SANS-SERIF DIGIT FIVE
    2785 DINGBAT CIRCLED SANS-SERIF DIGIT SIX
    2786 DINGBAT CIRCLED SANS-SERIF DIGIT SEVEN
    2787 DINGBAT CIRCLED SANS-SERIF DIGIT EIGHT
    2788 DINGBAT CIRCLED SANS-SERIF DIGIT NINE
    2789 DINGBAT CIRCLED SANS-SERIF NUMBER TEN
    278a DINGBAT NEGATIVE CIRCLED SANS-SERIF DIGIT ONE
    278b DINGBAT NEGATIVE CIRCLED SANS-SERIF DIGIT TWO
    278c DINGBAT NEGATIVE CIRCLED SANS-SERIF DIGIT THREE
    278d DINGBAT NEGATIVE CIRCLED SANS-SERIF DIGIT FOUR
    278e DINGBAT NEGATIVE CIRCLED SANS-SERIF DIGIT FIVE
    278f DINGBAT NEGATIVE CIRCLED SANS-SERIF DIGIT SIX
    2790 DINGBAT NEGATIVE CIRCLED SANS-SERIF DIGIT SEVEN
    2791 DINGBAT NEGATIVE CIRCLED SANS-SERIF DIGIT EIGHT
    2792 DINGBAT NEGATIVE CIRCLED SANS-SERIF DIGIT NINE
    2793 DINGBAT NEGATIVE CIRCLED SANS-SERIF NUMBER TEN
    2794 HEAVY WIDE-HEADED RIGHTWARDS ARROW
    2795 HEAVY PLUS SIGN
    2796 HEAVY MINUS SIGN
    2797 HEAVY DIVISION SIGN
    2798 HEAVY SOUTH EAST ARROW
    2799 HEAVY RIGHTWARDS ARROW
    279a HEAVY NORTH EAST ARROW
    279b DRAFTING POINT RIGHTWARDS ARROW
    279c HEAVY ROUND-TIPPED RIGHTWARDS ARROW
    279d TRIANGLE-HEADED RIGHTWARDS ARROW
    279e HEAVY TRIANGLE-HEADED RIGHTWARDS ARROW
    279f DASHED TRIANGLE-HEADED RIGHTWARDS ARROW
    27a0 HEAVY DASHED TRIANGLE-HEADED RIGHTWARDS ARROW
    27a1 BLACK RIGHTWARDS ARROW
    27a2 THREE-D TOP-LIGHTED RIGHTWARDS ARROWHEAD
    27a3 THREE-D BOTTOM-LIGHTED RIGHTWARDS ARROWHEAD
    27a4 BLACK RIGHTWARDS ARROWHEAD
    27a5 HEAVY BLACK CURVED DOWNWARDS AND RIGHTWARDS ARROW
    27a6 HEAVY BLACK CURVED UPWARDS AND RIGHTWARDS ARROW
    27a7 SQUAT BLACK RIGHTWARDS ARROW
    27a8 HEAVY CONCAVE-POINTED BLACK RIGHTWARDS ARROW
    27a9 RIGHT-SHADED WHITE RIGHTWARDS ARROW
    27aa LEFT-SHADED WHITE RIGHTWARDS ARROW
    27ab BACK-TILTED SHADOWED WHITE RIGHTWARDS ARROW
    27ac FRONT-TILTED SHADOWED WHITE RIGHTWARDS ARROW
    27ad HEAVY LOWER RIGHT-SHADOWED WHITE RIGHTWARDS ARROW
    27ae HEAVY UPPER RIGHT-SHADOWED WHITE RIGHTWARDS ARROW
    27af NOTCHED LOWER RIGHT-SHADOWED WHITE RIGHTWARDS ARROW
    27b0 CURLY LOOP
    27b1 NOTCHED UPPER RIGHT-SHADOWED WHITE RIGHTWARDS ARROW
    27b2 CIRCLED HEAVY WHITE RIGHTWARDS ARROW
    27b3 WHITE-FEATHERED RIGHTWARDS ARROW
    27b4 BLACK-FEATHERED SOUTH EAST ARROW
    27b5 BLACK-FEATHERED RIGHTWARDS ARROW
    27b6 BLACK-FEATHERED NORTH EAST ARROW
    27b7 HEAVY BLACK-FEATHERED SOUTH EAST ARROW
    27b8 HEAVY BLACK-FEATHERED RIGHTWARDS ARROW
    27b9 HEAVY BLACK-FEATHERED NORTH EAST ARROW
    27ba TEARDROP-BARBED RIGHTWARDS ARROW
    27bb HEAVY TEARDROP-SHANKED RIGHTWARDS ARROW
    27bc WEDGE-TAILED RIGHTWARDS ARROW
    27bd HEAVY WEDGE-TAILED RIGHTWARDS ARROW
    27be OPEN-OUTLINED RIGHTWARDS ARROW
    27bf DOUBLE CURLY LOOP
    3000 IDEOGRAPHIC SPACE
    3001 IDEOGRAPHIC COMMA
    3002 IDEOGRAPHIC FULL STOP
    3003 DITTO MARK
    3004 JAPANESE INDUSTRIAL STANDARD SYMBOL
    3005 IDEOGRAPHIC ITERATION MARK
    3006 IDEOGRAPHIC CLOSING MARK
    3007 IDEOGRAPHIC NUMBER ZERO
    3008 LEFT ANGLE BRACKET
    3009 RIGHT ANGLE BRACKET
    300a LEFT DOUBLE ANGLE BRACKET
    300b RIGHT DOUBLE ANGLE BRACKET
    300c LEFT CORNER BRACKET
    300d RIGHT CORNER BRACKET
    300e LEFT WHITE CORNER BRACKET
    300f RIGHT WHITE CORNER BRACKET
    3010 LEFT BLACK LENTICULAR BRACKET
    3011 RIGHT BLACK LENTICULAR BRACKET
    fb00 LATIN SMALL LIGATURE FF
    fb01 LATIN SMALL LIGATURE FI
    fb02 LATIN SMALL LIGATURE FL
    fb03 LATIN SMALL LIGATURE FFI
    fb04 LATIN SMALL LIGATURE FFL
    fb05 LATIN SMALL LIGATURE LONG S T
    fb06 LATIN SMALL LIGATURE ST
    feff ZERO WIDTH NO-BREAK SPACE
    fffc OBJECT REPLACEMENT CHARACTER
    fffd REPLACEMENT CHARACTER
    1f600 GRINNING FACE
    1f601 GRINNING FACE WITH SMILING EYES
    1f602 FACE WITH TEARS OF JOY
    1f603 SMILING FACE WITH OPEN MOUTH
    1f604 SMILING FACE WITH OPEN MOUTH AND SMILING EYES
    1f605 SMILING FACE WITH OPEN MOUTH AND COLD SWEAT
    1f606 SMILING FACE WITH OPEN MOUTH AND TIGHTLY-CLOSED EYES
    1f607 SMILING FACE WITH HALO
    1f608 SMILING FACE WITH HORNS
    1f609 WINKING FACE
    1f60a SMILING FACE WITH SMILING EYES
    1f60b FACE SAVOURING DELICIOUS FOOD
    1f60c RELIEVED FACE
    1f60d SMILING FACE WITH HEART-SHAPED EYES
    1f60e SMILING FACE WITH SUNGLASSES
    1f60f SMIRKING FACE
    1f610 NEUTRAL FACE
    1f611 EXPRESSIONLESS FACE
    1f612 UNAMUSED FACE
    1f613 FACE WITH COLD SWEAT
    1f614 PENSIVE FACE
    1f615 CONFUSED FACE
    1f616 CONFOUNDED FACE
    1f617 KISSING FACE
    1f618 FACE THROWING A KISS
    1f619 KISSING FACE WITH SMILING EYES
    1f61a KISSING FACE WITH CLOSED EYES
    1f61b FACE WITH STUCK-OUT TONGUE
    1f61c FACE WITH STUCK-OUT TONGUE AND WINKING EYE
    1f61d FACE WITH STUCK-OUT TONGUE AND TIGHTLY-CLOSED EYES
    1f61e DISAPPOINTED FACE
    1f61f WORRIED FACE
    1f620 ANGRY FACE
    1f621 POUTING FACE
    1f622 CRYING FACE
    1f623 PERSEVERING FACE
    1f624 FACE WITH LOOK OF TRIUMPH
    1f625 DISAPPOINTED BUT RELIEVED FACE
    1f626 FROWNING FACE WITH OPEN MOUTH
    1f627 ANGUISHED FACE
    1f628 FEARFUL FACE
    1f629 WEARY FACE
    1f62a SLEEPY FACE
    1f62b TIRED FACE
    1f62c GRIMACING FACE
    1f62d LOUDLY CRYING FACE
    1f62e FACE WITH OPEN MOUTH
    1f62f HUSHED FACE
    1f630 FACE WITH OPEN MOUTH AND COLD SWEAT
    1f631 FACE SCREAMING IN FEAR
    1f632 ASTONISHED FACE
    1f633 FLUSHED FACE
    1f634 SLEEPING FACE
    1f635 DIZZY FACE
    1f636 FACE WITHOUT MOUTH
    1f637 FACE WITH MEDICAL MASK
    1f638 GRINNING CAT FACE WITH SMILING EYES
    1f639 CAT FACE WITH TEARS OF JOY
    1f63a SMILING CAT FACE WITH OPEN MOUTH
    1f63b SMILING CAT FACE WITH HEART-SHAPED EYES
    1f63c CAT FACE WITH WRY SMILE
    1f63d KISSING CAT FACE WITH CLOSED EYES
    1f63e POUTING CAT FACE
    1f63f CRYING CAT FACE
    1f640 WEARY CAT FACE
    1f641 SLIGHTLY FROWNING FACE
    1f642 SLIGHTLY SMILING FACE
    1f643 UPSIDE-DOWN FACE
    1f644 FACE WITH ROLLING EYES
    1f645 FACE WITH NO GOOD GESTURE
    1f646 FACE WITH OK GESTURE
    1f647 PERSON BOWING DEEPLY
    1f648 SEE-NO-EVIL MONKEY
    1f649 HEAR-NO-EVIL MONKEY
    1f64a SPEAK-NO-EVIL MONKEY
    1f64b HAPPY PERSON RAISING ONE HAND
    1f64c PERSON RAISING BOTH HANDS IN CELEBRATION
    1f64d PERSON FROWNING
    1f64e PERSON WITH POUTING FACE
    1f64f PERSON WITH FOLDED HANDS
    0 NULL
    0 NUL
    1 START OF HEADING
    1 SOH
    2 START OF TEXT
    2 STX
    3 END OF TEXT
    3 ETX
    4 END OF TRANSMISSION
    4 EOT
    5 ENQUIRY
    5 ENQ
    6 ACKNOWLEDGE
    6 ACK
    7 ALERT
    7 BEL
    8 BACKSPACE
    8 BS
    9 CHARACTER TABULATION
    9 HORIZONTAL TABULATION
    9 HT
    9 TAB
    a LINE FEED
    a NEW LINE
    a END OF LINE
    a LF
    a NL
    a EOL
    b LINE TABULATION
    b VERTICAL TABULATION
    b VT
    c FORM FEED
    c FF
    d CARRIAGE RETURN
    d CR
    1b ESCAPE
    1b ESC
    20 SP
    7f DELETE
    7f DEL
    85 NEXT LINE
    85 NEL
    a0 NBSP
    ad SHY
    200b ZWSP
    200c ZWNJ
    200d ZWJ
    200e LRM
    200f RLM
    feff BYTE ORDER MARK
    feff BOM
    feff ZWNBSP"

end Pruner.Text
