/-! The characters that HTML 5 has names for, by kind. A name is written here without the semicolon
that ends most references by it. -/
namespace Quarry.Markup

/-- The characters that markup gives a meaning. -/
def markupEntities : List (String × Nat) :=
  [("amp", 0x26), ("lt", 0x3C), ("gt", 0x3E), ("quot", 0x22), ("apos", 0x27), ("AMP", 0x26),
   ("LT", 0x3C), ("GT", 0x3E), ("QUOT", 0x22)]

/-- Letters of Latin alphabets, and the other characters of Latin-1. -/
def latinEntities : List (String × Nat) :=
  [("AElig", 0xC6), ("Aacute", 0xC1), ("Abreve", 0x102), ("Acirc", 0xC2), ("Agrave", 0xC0),
   ("Amacr", 0x100), ("Aogon", 0x104), ("Aring", 0xC5), ("Atilde", 0xC3), ("Auml", 0xC4),
   ("COPY", 0xA9), ("Cacute", 0x106), ("Ccaron", 0x10C), ("Ccedil", 0xC7), ("Ccirc", 0x108),
   ("Cdot", 0x10A), ("Cedilla", 0xB8), ("CenterDot", 0xB7), ("Dcaron", 0x10E),
   ("DiacriticalAcute", 0xB4), ("DiacriticalGrave", 0x60), ("Dot", 0xA8), ("DoubleDot", 0xA8),
   ("Dstrok", 0x110), ("ENG", 0x14A), ("ETH", 0xD0), ("Eacute", 0xC9), ("Ecaron", 0x11A),
   ("Ecirc", 0xCA), ("Edot", 0x116), ("Egrave", 0xC8), ("Emacr", 0x112), ("Eogon", 0x118),
   ("Euml", 0xCB), ("Gbreve", 0x11E), ("Gcedil", 0x122), ("Gcirc", 0x11C), ("Gdot", 0x120),
   ("Hat", 0x5E), ("Hcirc", 0x124), ("Hstrok", 0x126), ("IJlig", 0x132), ("Iacute", 0xCD),
   ("Icirc", 0xCE), ("Idot", 0x130), ("Igrave", 0xCC), ("Imacr", 0x12A), ("Iogon", 0x12E),
   ("Itilde", 0x128), ("Iuml", 0xCF), ("Jcirc", 0x134), ("Kcedil", 0x136), ("Lacute", 0x139),
   ("Lcaron", 0x13D), ("Lcedil", 0x13B), ("Lmidot", 0x13F), ("Lstrok", 0x141), ("Nacute", 0x143),
   ("Ncaron", 0x147), ("Ncedil", 0x145), ("NewLine", 0xA), ("NonBreakingSpace", 0xA0),
   ("Ntilde", 0xD1), ("OElig", 0x152), ("Oacute", 0xD3), ("Ocirc", 0xD4), ("Odblac", 0x150),
   ("Ograve", 0xD2), ("Omacr", 0x14C), ("Oslash", 0xD8), ("Otilde", 0xD5), ("Ouml", 0xD6),
   ("PlusMinus", 0xB1), ("REG", 0xAE), ("Racute", 0x154), ("Rcaron", 0x158), ("Rcedil", 0x156),
   ("Sacute", 0x15A), ("Scaron", 0x160), ("Scedil", 0x15E), ("Scirc", 0x15C), ("THORN", 0xDE),
   ("Tab", 0x9), ("Tcaron", 0x164), ("Tcedil", 0x162), ("Tstrok", 0x166), ("Uacute", 0xDA),
   ("Ubreve", 0x16C), ("Ucirc", 0xDB), ("Udblac", 0x170), ("Ugrave", 0xD9), ("Umacr", 0x16A),
   ("UnderBar", 0x5F), ("Uogon", 0x172), ("Uring", 0x16E), ("Utilde", 0x168), ("Uuml", 0xDC),
   ("VerticalLine", 0x7C), ("Wcirc", 0x174), ("Yacute", 0xDD), ("Ycirc", 0x176), ("Yuml", 0x178),
   ("Zacute", 0x179), ("Zcaron", 0x17D), ("Zdot", 0x17B), ("aacute", 0xE1), ("abreve", 0x103),
   ("acirc", 0xE2), ("acute", 0xB4), ("aelig", 0xE6), ("agrave", 0xE0), ("amacr", 0x101),
   ("angst", 0xC5), ("aogon", 0x105), ("aring", 0xE5), ("ast", 0x2A), ("atilde", 0xE3),
   ("auml", 0xE4), ("brvbar", 0xA6), ("bsol", 0x5C), ("cacute", 0x107), ("ccaron", 0x10D),
   ("ccedil", 0xE7), ("ccirc", 0x109), ("cdot", 0x10B), ("cedil", 0xB8), ("cent", 0xA2),
   ("centerdot", 0xB7), ("circledR", 0xAE), ("colon", 0x3A), ("comma", 0x2C), ("commat", 0x40),
   ("copy", 0xA9), ("curren", 0xA4), ("dcaron", 0x10F), ("deg", 0xB0), ("die", 0xA8),
   ("div", 0xF7), ("divide", 0xF7), ("dollar", 0x24), ("dstrok", 0x111), ("eacute", 0xE9),
   ("ecaron", 0x11B), ("ecirc", 0xEA), ("edot", 0x117), ("egrave", 0xE8), ("emacr", 0x113),
   ("eng", 0x14B), ("eogon", 0x119), ("equals", 0x3D), ("eth", 0xF0), ("euml", 0xEB),
   ("excl", 0x21), ("fnof", 0x192), ("frac12", 0xBD), ("frac14", 0xBC), ("frac34", 0xBE),
   ("gacute", 0x1F5), ("gbreve", 0x11F), ("gcirc", 0x11D), ("gdot", 0x121), ("grave", 0x60),
   ("half", 0xBD), ("hcirc", 0x125), ("hstrok", 0x127), ("iacute", 0xED), ("icirc", 0xEE),
   ("iexcl", 0xA1), ("igrave", 0xEC), ("ijlig", 0x133), ("imacr", 0x12B), ("imath", 0x131),
   ("imped", 0x1B5), ("inodot", 0x131), ("iogon", 0x12F), ("iquest", 0xBF), ("itilde", 0x129),
   ("iuml", 0xEF), ("jcirc", 0x135), ("jmath", 0x237), ("kcedil", 0x137), ("kgreen", 0x138),
   ("lacute", 0x13A), ("laquo", 0xAB), ("lbrace", 0x7B), ("lbrack", 0x5B), ("lcaron", 0x13E),
   ("lcedil", 0x13C), ("lcub", 0x7B), ("lmidot", 0x140), ("lowbar", 0x5F), ("lpar", 0x28),
   ("lsqb", 0x5B), ("lstrok", 0x142), ("macr", 0xAF), ("micro", 0xB5), ("midast", 0x2A),
   ("middot", 0xB7), ("nacute", 0x144), ("napos", 0x149), ("nbsp", 0xA0), ("ncaron", 0x148),
   ("ncedil", 0x146), ("not", 0xAC), ("ntilde", 0xF1), ("num", 0x23), ("oacute", 0xF3),
   ("ocirc", 0xF4), ("odblac", 0x151), ("oelig", 0x153), ("ograve", 0xF2), ("omacr", 0x14D),
   ("ordf", 0xAA), ("ordm", 0xBA), ("oslash", 0xF8), ("otilde", 0xF5), ("ouml", 0xF6),
   ("para", 0xB6), ("percnt", 0x25), ("period", 0x2E), ("plus", 0x2B), ("plusmn", 0xB1),
   ("pm", 0xB1), ("pound", 0xA3), ("quest", 0x3F), ("racute", 0x155), ("raquo", 0xBB),
   ("rbrace", 0x7D), ("rbrack", 0x5D), ("rcaron", 0x159), ("rcedil", 0x157), ("rcub", 0x7D),
   ("reg", 0xAE), ("rpar", 0x29), ("rsqb", 0x5D), ("sacute", 0x15B), ("scaron", 0x161),
   ("scedil", 0x15F), ("scirc", 0x15D), ("sect", 0xA7), ("semi", 0x3B), ("shy", 0xAD),
   ("sol", 0x2F), ("strns", 0xAF), ("sup1", 0xB9), ("sup2", 0xB2), ("sup3", 0xB3), ("szlig", 0xDF),
   ("tcaron", 0x165), ("tcedil", 0x163), ("thorn", 0xFE), ("times", 0xD7), ("tstrok", 0x167),
   ("uacute", 0xFA), ("ubreve", 0x16D), ("ucirc", 0xFB), ("udblac", 0x171), ("ugrave", 0xF9),
   ("umacr", 0x16B), ("uml", 0xA8), ("uogon", 0x173), ("uring", 0x16F), ("utilde", 0x169),
   ("uuml", 0xFC), ("verbar", 0x7C), ("vert", 0x7C), ("wcirc", 0x175), ("yacute", 0xFD),
   ("ycirc", 0x177), ("yen", 0xA5), ("yuml", 0xFF), ("zacute", 0x17A), ("zcaron", 0x17E),
   ("zdot", 0x17C)]

/-- Greek letters. -/
def greekEntities : List (String × Nat) :=
  [("Alpha", 0x391), ("Beta", 0x392), ("Chi", 0x3A7), ("Delta", 0x394), ("Epsilon", 0x395),
   ("Eta", 0x397), ("Gamma", 0x393), ("Gammad", 0x3DC), ("Iota", 0x399), ("Kappa", 0x39A),
   ("Lambda", 0x39B), ("Mu", 0x39C), ("Nu", 0x39D), ("Omega", 0x3A9), ("Omicron", 0x39F),
   ("Phi", 0x3A6), ("Pi", 0x3A0), ("Psi", 0x3A8), ("Rho", 0x3A1), ("Sigma", 0x3A3), ("Tau", 0x3A4),
   ("Theta", 0x398), ("Upsi", 0x3D2), ("Upsilon", 0x3A5), ("Xi", 0x39E), ("Zeta", 0x396),
   ("alpha", 0x3B1), ("backepsilon", 0x3F6), ("bepsi", 0x3F6), ("beta", 0x3B2), ("chi", 0x3C7),
   ("delta", 0x3B4), ("digamma", 0x3DD), ("epsi", 0x3B5), ("epsilon", 0x3B5), ("epsiv", 0x3F5),
   ("eta", 0x3B7), ("gamma", 0x3B3), ("gammad", 0x3DD), ("iota", 0x3B9), ("kappa", 0x3BA),
   ("kappav", 0x3F0), ("lambda", 0x3BB), ("mu", 0x3BC), ("nu", 0x3BD), ("ohm", 0x3A9),
   ("omega", 0x3C9), ("omicron", 0x3BF), ("phi", 0x3C6), ("phiv", 0x3D5), ("pi", 0x3C0),
   ("piv", 0x3D6), ("psi", 0x3C8), ("rho", 0x3C1), ("rhov", 0x3F1), ("sigma", 0x3C3),
   ("sigmaf", 0x3C2), ("sigmav", 0x3C2), ("straightepsilon", 0x3F5), ("straightphi", 0x3D5),
   ("tau", 0x3C4), ("theta", 0x3B8), ("thetasym", 0x3D1), ("thetav", 0x3D1), ("upsi", 0x3C5),
   ("upsih", 0x3D2), ("upsilon", 0x3C5), ("varepsilon", 0x3F5), ("varkappa", 0x3F0),
   ("varphi", 0x3D5), ("varpi", 0x3D6), ("varrho", 0x3F1), ("varsigma", 0x3C2),
   ("vartheta", 0x3D1), ("xi", 0x3BE), ("zeta", 0x3B6)]

/-- Cyrillic letters. -/
def cyrillicEntities : List (String × Nat) :=
  [("Acy", 0x410), ("Bcy", 0x411), ("CHcy", 0x427), ("DJcy", 0x402), ("DScy", 0x405),
   ("DZcy", 0x40F), ("Dcy", 0x414), ("Ecy", 0x42D), ("Fcy", 0x424), ("GJcy", 0x403),
   ("Gcy", 0x413), ("HARDcy", 0x42A), ("IEcy", 0x415), ("IOcy", 0x401), ("Icy", 0x418),
   ("Iukcy", 0x406), ("Jcy", 0x419), ("Jsercy", 0x408), ("Jukcy", 0x404), ("KHcy", 0x425),
   ("KJcy", 0x40C), ("Kcy", 0x41A), ("LJcy", 0x409), ("Lcy", 0x41B), ("Mcy", 0x41C),
   ("NJcy", 0x40A), ("Ncy", 0x41D), ("Ocy", 0x41E), ("Pcy", 0x41F), ("Rcy", 0x420),
   ("SHCHcy", 0x429), ("SHcy", 0x428), ("SOFTcy", 0x42C), ("Scy", 0x421), ("TSHcy", 0x40B),
   ("TScy", 0x426), ("Tcy", 0x422), ("Ubrcy", 0x40E), ("Ucy", 0x423), ("Vcy", 0x412),
   ("YAcy", 0x42F), ("YIcy", 0x407), ("YUcy", 0x42E), ("Ycy", 0x42B), ("ZHcy", 0x416),
   ("Zcy", 0x417), ("acy", 0x430), ("bcy", 0x431), ("chcy", 0x447), ("dcy", 0x434),
   ("djcy", 0x452), ("dscy", 0x455), ("dzcy", 0x45F), ("ecy", 0x44D), ("fcy", 0x444),
   ("gcy", 0x433), ("gjcy", 0x453), ("hardcy", 0x44A), ("icy", 0x438), ("iecy", 0x435),
   ("iocy", 0x451), ("iukcy", 0x456), ("jcy", 0x439), ("jsercy", 0x458), ("jukcy", 0x454),
   ("kcy", 0x43A), ("khcy", 0x445), ("kjcy", 0x45C), ("lcy", 0x43B), ("ljcy", 0x459),
   ("mcy", 0x43C), ("ncy", 0x43D), ("njcy", 0x45A), ("ocy", 0x43E), ("pcy", 0x43F), ("rcy", 0x440),
   ("scy", 0x441), ("shchcy", 0x449), ("shcy", 0x448), ("softcy", 0x44C), ("tcy", 0x442),
   ("tscy", 0x446), ("tshcy", 0x45B), ("ubrcy", 0x45E), ("ucy", 0x443), ("vcy", 0x432),
   ("yacy", 0x44F), ("ycy", 0x44B), ("yicy", 0x457), ("yucy", 0x44E), ("zcy", 0x437),
   ("zhcy", 0x436)]

/-- Marks on letters, ligatures, blanks, punctuation and currency signs. -/
def punctuationEntities : List (String × Nat) :=
  [("ApplyFunction", 0x2061), ("Breve", 0x2D8), ("CloseCurlyDoubleQuote", 0x201D),
   ("CloseCurlyQuote", 0x2019), ("Dagger", 0x2021), ("DiacriticalDot", 0x2D9),
   ("DiacriticalDoubleAcute", 0x2DD), ("DiacriticalTilde", 0x2DC), ("DotDot", 0x20DC),
   ("DownBreve", 0x311), ("Hacek", 0x2C7), ("InvisibleComma", 0x2063), ("InvisibleTimes", 0x2062),
   ("MediumSpace", 0x205F), ("NegativeMediumSpace", 0x200B), ("NegativeThickSpace", 0x200B),
   ("NegativeThinSpace", 0x200B), ("NegativeVeryThinSpace", 0x200B), ("NoBreak", 0x2060),
   ("OpenCurlyDoubleQuote", 0x201C), ("OpenCurlyQuote", 0x2018), ("OverBar", 0x203E),
   ("Prime", 0x2033), ("ThinSpace", 0x2009), ("TripleDot", 0x20DB), ("Verbar", 0x2016),
   ("Vert", 0x2016), ("VeryThinSpace", 0x200A), ("ZeroWidthSpace", 0x200B), ("af", 0x2061),
   ("backprime", 0x2035), ("bdquo", 0x201E), ("bprime", 0x2035), ("breve", 0x2D8),
   ("bsemi", 0x204F), ("bull", 0x2022), ("bullet", 0x2022), ("caret", 0x2041), ("caron", 0x2C7),
   ("circ", 0x2C6), ("dagger", 0x2020), ("dash", 0x2010), ("dblac", 0x2DD), ("ddagger", 0x2021),
   ("dot", 0x2D9), ("emsp13", 0x2004), ("emsp14", 0x2005), ("emsp", 0x2003), ("ensp", 0x2002),
   ("euro", 0x20AC), ("ffilig", 0xFB03), ("fflig", 0xFB00), ("ffllig", 0xFB04), ("filig", 0xFB01),
   ("fllig", 0xFB02), ("frasl", 0x2044), ("hairsp", 0x200A), ("hellip", 0x2026),
   ("horbar", 0x2015), ("hybull", 0x2043), ("hyphen", 0x2010), ("ic", 0x2063), ("it", 0x2062),
   ("ldquo", 0x201C), ("ldquor", 0x201E), ("lrm", 0x200E), ("lsaquo", 0x2039), ("lsquo", 0x2018),
   ("lsquor", 0x201A), ("mdash", 0x2014), ("mldr", 0x2026), ("ndash", 0x2013), ("nldr", 0x2025),
   ("numsp", 0x2007), ("ogon", 0x2DB), ("oline", 0x203E), ("permil", 0x2030), ("pertenk", 0x2031),
   ("prime", 0x2032), ("puncsp", 0x2008), ("qprime", 0x2057), ("rdquo", 0x201D),
   ("rdquor", 0x201D), ("ring", 0x2DA), ("rlm", 0x200F), ("rsaquo", 0x203A), ("rsquo", 0x2019),
   ("rsquor", 0x2019), ("sbquo", 0x201A), ("tdot", 0x20DB), ("thinsp", 0x2009), ("tilde", 0x2DC),
   ("tprime", 0x2034), ("zwj", 0x200D), ("zwnj", 0x200C)]

/-- Signs made of letters, and fractions. -/
def letterlikeEntities : List (String × Nat) :=
  [("Bernoullis", 0x212C), ("Bscr", 0x212C), ("CapitalDifferentialD", 0x2145), ("Cayleys", 0x212D),
   ("Cfr", 0x212D), ("Copf", 0x2102), ("DD", 0x2145), ("DifferentialD", 0x2146), ("Escr", 0x2130),
   ("ExponentialE", 0x2147), ("Fouriertrf", 0x2131), ("Fscr", 0x2131), ("Hfr", 0x210C),
   ("HilbertSpace", 0x210B), ("Hopf", 0x210D), ("Hscr", 0x210B), ("Ifr", 0x2111), ("Im", 0x2111),
   ("ImaginaryI", 0x2148), ("Iscr", 0x2110), ("Laplacetrf", 0x2112), ("Lscr", 0x2112),
   ("Mellintrf", 0x2133), ("Mscr", 0x2133), ("Nopf", 0x2115), ("Poincareplane", 0x210C),
   ("Popf", 0x2119), ("Qopf", 0x211A), ("Re", 0x211C), ("Rfr", 0x211C), ("Ropf", 0x211D),
   ("Rscr", 0x211B), ("TRADE", 0x2122), ("Zfr", 0x2128), ("Zopf", 0x2124), ("alefsym", 0x2135),
   ("aleph", 0x2135), ("bernou", 0x212C), ("beth", 0x2136), ("complexes", 0x2102),
   ("copysr", 0x2117), ("daleth", 0x2138), ("dd", 0x2146), ("ee", 0x2147), ("ell", 0x2113),
   ("escr", 0x212F), ("expectation", 0x2130), ("exponentiale", 0x2147), ("frac13", 0x2153),
   ("frac15", 0x2155), ("frac16", 0x2159), ("frac18", 0x215B), ("frac23", 0x2154),
   ("frac25", 0x2156), ("frac35", 0x2157), ("frac38", 0x215C), ("frac45", 0x2158),
   ("frac56", 0x215A), ("frac58", 0x215D), ("frac78", 0x215E), ("gimel", 0x2137), ("gscr", 0x210A),
   ("hamilt", 0x210B), ("hbar", 0x210F), ("hslash", 0x210F), ("ii", 0x2148), ("iiota", 0x2129),
   ("image", 0x2111), ("imagline", 0x2110), ("imagpart", 0x2111), ("incare", 0x2105),
   ("integers", 0x2124), ("lagran", 0x2112), ("mho", 0x2127), ("naturals", 0x2115),
   ("numero", 0x2116), ("order", 0x2134), ("orderof", 0x2134), ("oscr", 0x2134),
   ("phmmat", 0x2133), ("planck", 0x210F), ("planckh", 0x210E), ("plankv", 0x210F),
   ("primes", 0x2119), ("quaternions", 0x210D), ("rationals", 0x211A), ("real", 0x211C),
   ("realine", 0x211B), ("realpart", 0x211C), ("reals", 0x211D), ("rx", 0x211E), ("trade", 0x2122),
   ("weierp", 0x2118), ("wp", 0x2118), ("zeetrf", 0x2128)]

/-- Arrows. -/
def arrowEntities : List (String × Nat) :=
  [("DDotrahd", 0x2911), ("Darr", 0x21A1), ("DoubleDownArrow", 0x21D3),
   ("DoubleLeftArrow", 0x21D0), ("DoubleLeftRightArrow", 0x21D4), ("DoubleLongLeftArrow", 0x27F8),
   ("DoubleLongLeftRightArrow", 0x27FA), ("DoubleLongRightArrow", 0x27F9),
   ("DoubleRightArrow", 0x21D2), ("DoubleUpArrow", 0x21D1), ("DoubleUpDownArrow", 0x21D5),
   ("DownArrow", 0x2193), ("DownArrowBar", 0x2913), ("DownArrowUpArrow", 0x21F5),
   ("DownLeftRightVector", 0x2950), ("DownLeftTeeVector", 0x295E), ("DownLeftVector", 0x21BD),
   ("DownLeftVectorBar", 0x2956), ("DownRightTeeVector", 0x295F), ("DownRightVector", 0x21C1),
   ("DownRightVectorBar", 0x2957), ("DownTeeArrow", 0x21A7), ("Downarrow", 0x21D3),
   ("Equilibrium", 0x21CC), ("Implies", 0x21D2), ("Larr", 0x219E), ("LeftArrow", 0x2190),
   ("LeftArrowBar", 0x21E4), ("LeftArrowRightArrow", 0x21C6), ("LeftDownTeeVector", 0x2961),
   ("LeftDownVector", 0x21C3), ("LeftDownVectorBar", 0x2959), ("LeftRightArrow", 0x2194),
   ("LeftRightVector", 0x294E), ("LeftTeeArrow", 0x21A4), ("LeftTeeVector", 0x295A),
   ("LeftUpDownVector", 0x2951), ("LeftUpTeeVector", 0x2960), ("LeftUpVector", 0x21BF),
   ("LeftUpVectorBar", 0x2958), ("LeftVector", 0x21BC), ("LeftVectorBar", 0x2952),
   ("Leftarrow", 0x21D0), ("Leftrightarrow", 0x21D4), ("Lleftarrow", 0x21DA),
   ("LongLeftArrow", 0x27F5), ("LongLeftRightArrow", 0x27F7), ("LongRightArrow", 0x27F6),
   ("Longleftarrow", 0x27F8), ("Longleftrightarrow", 0x27FA), ("Longrightarrow", 0x27F9),
   ("LowerLeftArrow", 0x2199), ("LowerRightArrow", 0x2198), ("Lsh", 0x21B0), ("Map", 0x2905),
   ("RBarr", 0x2910), ("Rarr", 0x21A0), ("Rarrtl", 0x2916), ("ReverseEquilibrium", 0x21CB),
   ("ReverseUpEquilibrium", 0x296F), ("RightArrow", 0x2192), ("RightArrowBar", 0x21E5),
   ("RightArrowLeftArrow", 0x21C4), ("RightDownTeeVector", 0x295D), ("RightDownVector", 0x21C2),
   ("RightDownVectorBar", 0x2955), ("RightTeeArrow", 0x21A6), ("RightTeeVector", 0x295B),
   ("RightUpDownVector", 0x294F), ("RightUpTeeVector", 0x295C), ("RightUpVector", 0x21BE),
   ("RightUpVectorBar", 0x2954), ("RightVector", 0x21C0), ("RightVectorBar", 0x2953),
   ("Rightarrow", 0x21D2), ("RoundImplies", 0x2970), ("Rrightarrow", 0x21DB), ("Rsh", 0x21B1),
   ("ShortDownArrow", 0x2193), ("ShortLeftArrow", 0x2190), ("ShortRightArrow", 0x2192),
   ("ShortUpArrow", 0x2191), ("Uarr", 0x219F), ("Uarrocir", 0x2949), ("UpArrow", 0x2191),
   ("UpArrowBar", 0x2912), ("UpArrowDownArrow", 0x21C5), ("UpDownArrow", 0x2195),
   ("UpEquilibrium", 0x296E), ("UpTeeArrow", 0x21A5), ("Uparrow", 0x21D1), ("Updownarrow", 0x21D5),
   ("UpperLeftArrow", 0x2196), ("UpperRightArrow", 0x2197), ("bkarow", 0x290D),
   ("circlearrowleft", 0x21BA), ("circlearrowright", 0x21BB), ("crarr", 0x21B5),
   ("cudarrl", 0x2938), ("cudarrr", 0x2935), ("cularr", 0x21B6), ("cularrp", 0x293D),
   ("curarr", 0x21B7), ("curarrm", 0x293C), ("curvearrowleft", 0x21B6),
   ("curvearrowright", 0x21B7), ("dArr", 0x21D3), ("dHar", 0x2965), ("darr", 0x2193),
   ("dbkarow", 0x290F), ("ddarr", 0x21CA), ("dfisht", 0x297F), ("dharl", 0x21C3),
   ("dharr", 0x21C2), ("downarrow", 0x2193), ("downdownarrows", 0x21CA),
   ("downharpoonleft", 0x21C3), ("downharpoonright", 0x21C2), ("drbkarow", 0x2910),
   ("duarr", 0x21F5), ("duhar", 0x296F), ("dzigrarr", 0x27FF), ("erarr", 0x2971),
   ("gtrarr", 0x2978), ("hArr", 0x21D4), ("harr", 0x2194), ("harrcir", 0x2948), ("harrw", 0x21AD),
   ("hksearow", 0x2925), ("hkswarow", 0x2926), ("hoarr", 0x21FF), ("hookleftarrow", 0x21A9),
   ("hookrightarrow", 0x21AA), ("iff", 0x21D4), ("lAarr", 0x21DA), ("lArr", 0x21D0),
   ("lAtail", 0x291B), ("lBarr", 0x290E), ("lHar", 0x2962), ("larr", 0x2190), ("larrb", 0x21E4),
   ("larrbfs", 0x291F), ("larrfs", 0x291D), ("larrhk", 0x21A9), ("larrlp", 0x21AB),
   ("larrpl", 0x2939), ("larrsim", 0x2973), ("larrtl", 0x21A2), ("latail", 0x2919),
   ("lbarr", 0x290C), ("ldca", 0x2936), ("ldrdhar", 0x2967), ("ldrushar", 0x294B),
   ("ldsh", 0x21B2), ("leftarrow", 0x2190), ("leftarrowtail", 0x21A2), ("leftharpoondown", 0x21BD),
   ("leftharpoonup", 0x21BC), ("leftleftarrows", 0x21C7), ("leftrightarrow", 0x2194),
   ("leftrightarrows", 0x21C6), ("leftrightharpoons", 0x21CB), ("leftrightsquigarrow", 0x21AD),
   ("lfisht", 0x297C), ("lhard", 0x21BD), ("lharu", 0x21BC), ("lharul", 0x296A), ("llarr", 0x21C7),
   ("llhard", 0x296B), ("loarr", 0x21FD), ("longleftarrow", 0x27F5),
   ("longleftrightarrow", 0x27F7), ("longmapsto", 0x27FC), ("longrightarrow", 0x27F6),
   ("looparrowleft", 0x21AB), ("looparrowright", 0x21AC), ("lrarr", 0x21C6), ("lrhar", 0x21CB),
   ("lrhard", 0x296D), ("lsh", 0x21B0), ("ltlarr", 0x2976), ("lurdshar", 0x294A),
   ("luruhar", 0x2966), ("map", 0x21A6), ("mapsto", 0x21A6), ("mapstodown", 0x21A7),
   ("mapstoleft", 0x21A4), ("mapstoup", 0x21A5), ("nLeftarrow", 0x21CD),
   ("nLeftrightarrow", 0x21CE), ("nRightarrow", 0x21CF), ("neArr", 0x21D7), ("nearhk", 0x2924),
   ("nearr", 0x2197), ("nearrow", 0x2197), ("nesear", 0x2928), ("nhArr", 0x21CE),
   ("nharr", 0x21AE), ("nlArr", 0x21CD), ("nlarr", 0x219A), ("nleftarrow", 0x219A),
   ("nleftrightarrow", 0x21AE), ("nrArr", 0x21CF), ("nrarr", 0x219B), ("nrightarrow", 0x219B),
   ("nvHarr", 0x2904), ("nvlArr", 0x2902), ("nvrArr", 0x2903), ("nwArr", 0x21D6),
   ("nwarhk", 0x2923), ("nwarr", 0x2196), ("nwarrow", 0x2196), ("nwnear", 0x2927),
   ("olarr", 0x21BA), ("orarr", 0x21BB), ("rAarr", 0x21DB), ("rArr", 0x21D2), ("rAtail", 0x291C),
   ("rBarr", 0x290F), ("rHar", 0x2964), ("rarr", 0x2192), ("rarrap", 0x2975), ("rarrb", 0x21E5),
   ("rarrbfs", 0x2920), ("rarrc", 0x2933), ("rarrfs", 0x291E), ("rarrhk", 0x21AA),
   ("rarrlp", 0x21AC), ("rarrpl", 0x2945), ("rarrsim", 0x2974), ("rarrtl", 0x21A3),
   ("rarrw", 0x219D), ("ratail", 0x291A), ("rbarr", 0x290D), ("rdca", 0x2937), ("rdldhar", 0x2969),
   ("rdsh", 0x21B3), ("rfisht", 0x297D), ("rhard", 0x21C1), ("rharu", 0x21C0), ("rharul", 0x296C),
   ("rightarrow", 0x2192), ("rightarrowtail", 0x21A3), ("rightharpoondown", 0x21C1),
   ("rightharpoonup", 0x21C0), ("rightleftarrows", 0x21C4), ("rightleftharpoons", 0x21CC),
   ("rightrightarrows", 0x21C9), ("rightsquigarrow", 0x219D), ("rlarr", 0x21C4), ("rlhar", 0x21CC),
   ("roarr", 0x21FE), ("rrarr", 0x21C9), ("rsh", 0x21B1), ("ruluhar", 0x2968), ("seArr", 0x21D8),
   ("searhk", 0x2925), ("searr", 0x2198), ("searrow", 0x2198), ("seswar", 0x2929),
   ("simrarr", 0x2972), ("slarr", 0x2190), ("srarr", 0x2192), ("subrarr", 0x2979),
   ("suplarr", 0x297B), ("swArr", 0x21D9), ("swarhk", 0x2926), ("swarr", 0x2199),
   ("swarrow", 0x2199), ("swnwar", 0x292A), ("toea", 0x2928), ("tosa", 0x2929),
   ("twoheadleftarrow", 0x219E), ("twoheadrightarrow", 0x21A0), ("uArr", 0x21D1), ("uHar", 0x2963),
   ("uarr", 0x2191), ("udarr", 0x21C5), ("udhar", 0x296E), ("ufisht", 0x297E), ("uharl", 0x21BF),
   ("uharr", 0x21BE), ("uparrow", 0x2191), ("updownarrow", 0x2195), ("upharpoonleft", 0x21BF),
   ("upharpoonright", 0x21BE), ("upuparrows", 0x21C8), ("uuarr", 0x21C8), ("vArr", 0x21D5),
   ("varr", 0x2195), ("xhArr", 0x27FA), ("xharr", 0x27F7), ("xlArr", 0x27F8), ("xlarr", 0x27F5),
   ("xmap", 0x27FC), ("xrArr", 0x27F9), ("xrarr", 0x27F6), ("zigrarr", 0x21DD)]

/-- Mathematical operators. -/
def operatorEntities : List (String × Nat) :=
  [("Assign", 0x2254), ("Backslash", 0x2216), ("Because", 0x2235), ("Bumpeq", 0x224E),
   ("Cap", 0x22D2), ("Cconint", 0x2230), ("CircleDot", 0x2299), ("CircleMinus", 0x2296),
   ("CirclePlus", 0x2295), ("CircleTimes", 0x2297), ("ClockwiseContourIntegral", 0x2232),
   ("Colon", 0x2237), ("Congruent", 0x2261), ("Conint", 0x222F), ("ContourIntegral", 0x222E),
   ("Coproduct", 0x2210), ("CounterClockwiseContourIntegral", 0x2233), ("Cup", 0x22D3),
   ("CupCap", 0x224D), ("Del", 0x2207), ("Diamond", 0x22C4), ("DotEqual", 0x2250),
   ("DoubleContourIntegral", 0x222F), ("DoubleRightTee", 0x22A8), ("DoubleVerticalBar", 0x2225),
   ("DownTee", 0x22A4), ("Element", 0x2208), ("EqualTilde", 0x2242), ("Exists", 0x2203),
   ("ForAll", 0x2200), ("Gg", 0x22D9), ("GreaterEqual", 0x2265), ("GreaterEqualLess", 0x22DB),
   ("GreaterFullEqual", 0x2267), ("GreaterLess", 0x2277), ("GreaterTilde", 0x2273), ("Gt", 0x226B),
   ("HumpDownHump", 0x224E), ("HumpEqual", 0x224F), ("Int", 0x222C), ("Integral", 0x222B),
   ("Intersection", 0x22C2), ("LeftTee", 0x22A3), ("LeftTriangle", 0x22B2),
   ("LeftTriangleEqual", 0x22B4), ("LessEqualGreater", 0x22DA), ("LessFullEqual", 0x2266),
   ("LessGreater", 0x2276), ("LessTilde", 0x2272), ("Ll", 0x22D8), ("Lt", 0x226A),
   ("MinusPlus", 0x2213), ("NestedGreaterGreater", 0x226B), ("NestedLessLess", 0x226A),
   ("NotCongruent", 0x2262), ("NotCupCap", 0x226D), ("NotDoubleVerticalBar", 0x2226),
   ("NotElement", 0x2209), ("NotEqual", 0x2260), ("NotExists", 0x2204), ("NotGreater", 0x226F),
   ("NotGreaterEqual", 0x2271), ("NotGreaterLess", 0x2279), ("NotGreaterTilde", 0x2275),
   ("NotLeftTriangle", 0x22EA), ("NotLeftTriangleEqual", 0x22EC), ("NotLess", 0x226E),
   ("NotLessEqual", 0x2270), ("NotLessGreater", 0x2278), ("NotLessTilde", 0x2274),
   ("NotPrecedes", 0x2280), ("NotPrecedesSlantEqual", 0x22E0), ("NotReverseElement", 0x220C),
   ("NotRightTriangle", 0x22EB), ("NotRightTriangleEqual", 0x22ED),
   ("NotSquareSubsetEqual", 0x22E2), ("NotSquareSupersetEqual", 0x22E3),
   ("NotSubsetEqual", 0x2288), ("NotSucceeds", 0x2281), ("NotSucceedsSlantEqual", 0x22E1),
   ("NotSupersetEqual", 0x2289), ("NotTilde", 0x2241), ("NotTildeEqual", 0x2244),
   ("NotTildeFullEqual", 0x2247), ("NotTildeTilde", 0x2249), ("NotVerticalBar", 0x2224),
   ("PartialD", 0x2202), ("Precedes", 0x227A), ("PrecedesSlantEqual", 0x227C),
   ("PrecedesTilde", 0x227E), ("Product", 0x220F), ("Proportion", 0x2237),
   ("Proportional", 0x221D), ("ReverseElement", 0x220B), ("RightTee", 0x22A2),
   ("RightTriangle", 0x22B3), ("RightTriangleEqual", 0x22B5), ("SmallCircle", 0x2218),
   ("Sqrt", 0x221A), ("SquareIntersection", 0x2293), ("SquareSubset", 0x228F),
   ("SquareSubsetEqual", 0x2291), ("SquareSuperset", 0x2290), ("SquareSupersetEqual", 0x2292),
   ("SquareUnion", 0x2294), ("Star", 0x22C6), ("Sub", 0x22D0), ("Subset", 0x22D0),
   ("SubsetEqual", 0x2286), ("Succeeds", 0x227B), ("SucceedsSlantEqual", 0x227D),
   ("SucceedsTilde", 0x227F), ("SuchThat", 0x220B), ("Sum", 0x2211), ("Sup", 0x22D1),
   ("Superset", 0x2283), ("SupersetEqual", 0x2287), ("Supset", 0x22D1), ("Therefore", 0x2234),
   ("Tilde", 0x223C), ("TildeEqual", 0x2243), ("TildeFullEqual", 0x2245), ("TildeTilde", 0x2248),
   ("Union", 0x22C3), ("UnionPlus", 0x228E), ("UpTee", 0x22A5), ("VDash", 0x22AB),
   ("Vdash", 0x22A9), ("Vee", 0x22C1), ("VerticalBar", 0x2223), ("VerticalTilde", 0x2240),
   ("Vvdash", 0x22AA), ("Wedge", 0x22C0), ("ac", 0x223E), ("acd", 0x223F), ("and", 0x2227),
   ("ang", 0x2220), ("angle", 0x2220), ("angmsd", 0x2221), ("angrt", 0x221F), ("angrtvb", 0x22BE),
   ("angsph", 0x2222), ("ap", 0x2248), ("ape", 0x224A), ("apid", 0x224B), ("approx", 0x2248),
   ("approxeq", 0x224A), ("asymp", 0x2248), ("asympeq", 0x224D), ("awconint", 0x2233),
   ("backcong", 0x224C), ("backsim", 0x223D), ("backsimeq", 0x22CD), ("barvee", 0x22BD),
   ("bcong", 0x224C), ("becaus", 0x2235), ("because", 0x2235), ("between", 0x226C),
   ("bigcap", 0x22C2), ("bigcup", 0x22C3), ("bigvee", 0x22C1), ("bigwedge", 0x22C0),
   ("bot", 0x22A5), ("bottom", 0x22A5), ("bowtie", 0x22C8), ("boxminus", 0x229F),
   ("boxplus", 0x229E), ("boxtimes", 0x22A0), ("bsim", 0x223D), ("bsime", 0x22CD),
   ("bump", 0x224E), ("bumpe", 0x224F), ("bumpeq", 0x224F), ("cap", 0x2229), ("circeq", 0x2257),
   ("circledast", 0x229B), ("circledcirc", 0x229A), ("circleddash", 0x229D), ("cire", 0x2257),
   ("colone", 0x2254), ("coloneq", 0x2254), ("comp", 0x2201), ("compfn", 0x2218),
   ("complement", 0x2201), ("cong", 0x2245), ("conint", 0x222E), ("coprod", 0x2210),
   ("ctdot", 0x22EF), ("cuepr", 0x22DE), ("cuesc", 0x22DF), ("cup", 0x222A), ("cupdot", 0x228D),
   ("curlyeqprec", 0x22DE), ("curlyeqsucc", 0x22DF), ("curlyvee", 0x22CE), ("curlywedge", 0x22CF),
   ("cuvee", 0x22CE), ("cuwed", 0x22CF), ("cwconint", 0x2232), ("cwint", 0x2231),
   ("dashv", 0x22A3), ("diam", 0x22C4), ("diamond", 0x22C4), ("disin", 0x22F2),
   ("divideontimes", 0x22C7), ("divonx", 0x22C7), ("doteq", 0x2250), ("doteqdot", 0x2251),
   ("dotminus", 0x2238), ("dotplus", 0x2214), ("dotsquare", 0x22A1), ("dtdot", 0x22F1),
   ("eDot", 0x2251), ("ecir", 0x2256), ("ecolon", 0x2255), ("efDot", 0x2252), ("empty", 0x2205),
   ("emptyset", 0x2205), ("emptyv", 0x2205), ("epar", 0x22D5), ("eqcirc", 0x2256),
   ("eqcolon", 0x2255), ("eqsim", 0x2242), ("equest", 0x225F), ("equiv", 0x2261),
   ("erDot", 0x2253), ("esdot", 0x2250), ("esim", 0x2242), ("exist", 0x2203),
   ("fallingdotseq", 0x2252), ("forall", 0x2200), ("fork", 0x22D4), ("gE", 0x2267), ("ge", 0x2265),
   ("gel", 0x22DB), ("geq", 0x2265), ("geqq", 0x2267), ("gg", 0x226B), ("ggg", 0x22D9),
   ("gl", 0x2277), ("gnE", 0x2269), ("gneqq", 0x2269), ("gnsim", 0x22E7), ("gsim", 0x2273),
   ("gtdot", 0x22D7), ("gtrdot", 0x22D7), ("gtreqless", 0x22DB), ("gtrless", 0x2277),
   ("gtrsim", 0x2273), ("hercon", 0x22B9), ("homtht", 0x223B), ("iiint", 0x222D), ("imof", 0x22B7),
   ("in", 0x2208), ("infin", 0x221E), ("int", 0x222B), ("intcal", 0x22BA), ("intercal", 0x22BA),
   ("isin", 0x2208), ("isinE", 0x22F9), ("isindot", 0x22F5), ("isins", 0x22F4), ("isinsv", 0x22F3),
   ("isinv", 0x2208), ("lE", 0x2266), ("le", 0x2264), ("leftthreetimes", 0x22CB), ("leg", 0x22DA),
   ("leq", 0x2264), ("leqq", 0x2266), ("lessdot", 0x22D6), ("lesseqgtr", 0x22DA),
   ("lessgtr", 0x2276), ("lesssim", 0x2272), ("lg", 0x2276), ("ll", 0x226A), ("lnE", 0x2268),
   ("lneqq", 0x2268), ("lnsim", 0x22E6), ("lowast", 0x2217), ("lrtri", 0x22BF), ("lsim", 0x2272),
   ("ltdot", 0x22D6), ("lthree", 0x22CB), ("ltimes", 0x22C9), ("ltrie", 0x22B4), ("mDDot", 0x223A),
   ("measuredangle", 0x2221), ("mid", 0x2223), ("minus", 0x2212), ("minusb", 0x229F),
   ("minusd", 0x2238), ("mnplus", 0x2213), ("models", 0x22A7), ("mp", 0x2213), ("mstpos", 0x223E),
   ("multimap", 0x22B8), ("mumap", 0x22B8), ("nVDash", 0x22AF), ("nVdash", 0x22AE),
   ("nabla", 0x2207), ("nap", 0x2249), ("napprox", 0x2249), ("ncong", 0x2247), ("ne", 0x2260),
   ("nequiv", 0x2262), ("nexist", 0x2204), ("nexists", 0x2204), ("nge", 0x2271), ("ngeq", 0x2271),
   ("ngsim", 0x2275), ("ngt", 0x226F), ("ngtr", 0x226F), ("ni", 0x220B), ("nis", 0x22FC),
   ("nisd", 0x22FA), ("niv", 0x220B), ("nle", 0x2270), ("nleq", 0x2270), ("nless", 0x226E),
   ("nlsim", 0x2274), ("nlt", 0x226E), ("nltri", 0x22EA), ("nltrie", 0x22EC), ("nmid", 0x2224),
   ("notin", 0x2209), ("notinva", 0x2209), ("notinvb", 0x22F7), ("notinvc", 0x22F6),
   ("notni", 0x220C), ("notniva", 0x220C), ("notnivb", 0x22FE), ("notnivc", 0x22FD),
   ("npar", 0x2226), ("nparallel", 0x2226), ("npr", 0x2280), ("nprcue", 0x22E0), ("nprec", 0x2280),
   ("nrtri", 0x22EB), ("nrtrie", 0x22ED), ("nsc", 0x2281), ("nsccue", 0x22E1),
   ("nshortmid", 0x2224), ("nshortparallel", 0x2226), ("nsim", 0x2241), ("nsime", 0x2244),
   ("nsimeq", 0x2244), ("nsmid", 0x2224), ("nspar", 0x2226), ("nsqsube", 0x22E2),
   ("nsqsupe", 0x22E3), ("nsub", 0x2284), ("nsube", 0x2288), ("nsubseteq", 0x2288),
   ("nsucc", 0x2281), ("nsup", 0x2285), ("nsupe", 0x2289), ("nsupseteq", 0x2289), ("ntgl", 0x2279),
   ("ntlg", 0x2278), ("ntriangleleft", 0x22EA), ("ntrianglelefteq", 0x22EC),
   ("ntriangleright", 0x22EB), ("ntrianglerighteq", 0x22ED), ("nvDash", 0x22AD),
   ("nvdash", 0x22AC), ("oast", 0x229B), ("ocir", 0x229A), ("odash", 0x229D), ("odot", 0x2299),
   ("oint", 0x222E), ("ominus", 0x2296), ("oplus", 0x2295), ("or", 0x2228), ("origof", 0x22B6),
   ("osol", 0x2298), ("otimes", 0x2297), ("par", 0x2225), ("parallel", 0x2225), ("part", 0x2202),
   ("perp", 0x22A5), ("pitchfork", 0x22D4), ("plusb", 0x229E), ("plusdo", 0x2214), ("pr", 0x227A),
   ("prcue", 0x227C), ("prec", 0x227A), ("preccurlyeq", 0x227C), ("precnsim", 0x22E8),
   ("precsim", 0x227E), ("prnsim", 0x22E8), ("prod", 0x220F), ("prop", 0x221D), ("propto", 0x221D),
   ("prsim", 0x227E), ("prurel", 0x22B0), ("questeq", 0x225F), ("radic", 0x221A),
   ("ratio", 0x2236), ("rightthreetimes", 0x22CC), ("risingdotseq", 0x2253), ("rthree", 0x22CC),
   ("rtimes", 0x22CA), ("rtrie", 0x22B5), ("sc", 0x227B), ("sccue", 0x227D), ("scnsim", 0x22E9),
   ("scsim", 0x227F), ("sdot", 0x22C5), ("sdotb", 0x22A1), ("setminus", 0x2216), ("setmn", 0x2216),
   ("shortmid", 0x2223), ("shortparallel", 0x2225), ("sim", 0x223C), ("sime", 0x2243),
   ("simeq", 0x2243), ("simne", 0x2246), ("smallsetminus", 0x2216), ("smid", 0x2223),
   ("spar", 0x2225), ("sqcap", 0x2293), ("sqcup", 0x2294), ("sqsub", 0x228F), ("sqsube", 0x2291),
   ("sqsubset", 0x228F), ("sqsubseteq", 0x2291), ("sqsup", 0x2290), ("sqsupe", 0x2292),
   ("sqsupset", 0x2290), ("sqsupseteq", 0x2292), ("ssetmn", 0x2216), ("sstarf", 0x22C6),
   ("sub", 0x2282), ("sube", 0x2286), ("subne", 0x228A), ("subset", 0x2282), ("subseteq", 0x2286),
   ("subsetneq", 0x228A), ("succ", 0x227B), ("succcurlyeq", 0x227D), ("succnsim", 0x22E9),
   ("succsim", 0x227F), ("sum", 0x2211), ("sup", 0x2283), ("supe", 0x2287), ("supne", 0x228B),
   ("supset", 0x2283), ("supseteq", 0x2287), ("supsetneq", 0x228B), ("there4", 0x2234),
   ("therefore", 0x2234), ("thickapprox", 0x2248), ("thicksim", 0x223C), ("thkap", 0x2248),
   ("thksim", 0x223C), ("timesb", 0x22A0), ("tint", 0x222D), ("top", 0x22A4),
   ("trianglelefteq", 0x22B4), ("triangleq", 0x225C), ("trianglerighteq", 0x22B5),
   ("trie", 0x225C), ("twixt", 0x226C), ("uplus", 0x228E), ("utdot", 0x22F0), ("vDash", 0x22A8),
   ("varnothing", 0x2205), ("varpropto", 0x221D), ("vartriangleleft", 0x22B2),
   ("vartriangleright", 0x22B3), ("vdash", 0x22A2), ("vee", 0x2228), ("veebar", 0x22BB),
   ("veeeq", 0x225A), ("vellip", 0x22EE), ("vltri", 0x22B2), ("vprop", 0x221D), ("vrtri", 0x22B3),
   ("wedge", 0x2227), ("wedgeq", 0x2259), ("wr", 0x2240), ("wreath", 0x2240), ("xcap", 0x22C2),
   ("xcup", 0x22C3), ("xnis", 0x22FB), ("xvee", 0x22C1), ("xwedge", 0x22C0)]

/-- Rarer mathematical operators and brackets. -/
def supplementalOperatorEntities : List (String × Nat) :=
  [("And", 0x2A53), ("Barv", 0x2AE7), ("Colone", 0x2A74), ("Cross", 0x2A2F), ("Dashv", 0x2AE4),
   ("DoubleLeftTee", 0x2AE4), ("Equal", 0x2A75), ("Esim", 0x2A73), ("GreaterGreater", 0x2AA2),
   ("GreaterSlantEqual", 0x2A7E), ("Lang", 0x27EA), ("LeftAngleBracket", 0x27E8),
   ("LeftDoubleBracket", 0x27E6), ("LeftTriangleBar", 0x29CF), ("LessLess", 0x2AA1),
   ("LessSlantEqual", 0x2A7D), ("Not", 0x2AEC), ("Or", 0x2A54), ("Otimes", 0x2A37), ("Pr", 0x2ABB),
   ("PrecedesEqual", 0x2AAF), ("Rang", 0x27EB), ("RightAngleBracket", 0x27E9),
   ("RightDoubleBracket", 0x27E7), ("RightTriangleBar", 0x29D0), ("RuleDelayed", 0x29F4),
   ("Sc", 0x2ABC), ("SucceedsEqual", 0x2AB0), ("Vbar", 0x2AEB), ("Vdashl", 0x2AE6),
   ("amalg", 0x2A3F), ("andand", 0x2A55), ("andd", 0x2A5C), ("andslope", 0x2A58), ("andv", 0x2A5A),
   ("ange", 0x29A4), ("angmsdaa", 0x29A8), ("angmsdab", 0x29A9), ("angmsdac", 0x29AA),
   ("angmsdad", 0x29AB), ("angmsdae", 0x29AC), ("angmsdaf", 0x29AD), ("angmsdag", 0x29AE),
   ("angmsdah", 0x29AF), ("angrtvbd", 0x299D), ("apE", 0x2A70), ("apacir", 0x2A6F),
   ("awint", 0x2A11), ("bNot", 0x2AED), ("bemptyv", 0x29B0), ("bigodot", 0x2A00),
   ("bigoplus", 0x2A01), ("bigotimes", 0x2A02), ("bigsqcup", 0x2A06), ("biguplus", 0x2A04),
   ("blacklozenge", 0x29EB), ("boxbox", 0x29C9), ("bsolb", 0x29C5), ("bsolhsub", 0x27C8),
   ("bumpE", 0x2AAE), ("capand", 0x2A44), ("capbrcup", 0x2A49), ("capcap", 0x2A4B),
   ("capcup", 0x2A47), ("capdot", 0x2A40), ("ccaps", 0x2A4D), ("ccups", 0x2A4C),
   ("ccupssm", 0x2A50), ("cemptyv", 0x29B2), ("cirE", 0x29C3), ("cirfnint", 0x2A10),
   ("cirmid", 0x2AEF), ("cirscir", 0x29C2), ("congdot", 0x2A6D), ("csub", 0x2ACF),
   ("csube", 0x2AD1), ("csup", 0x2AD0), ("csupe", 0x2AD2), ("cupbrcap", 0x2A48),
   ("cupcap", 0x2A46), ("cupcup", 0x2A4A), ("cupor", 0x2A45), ("ddotseq", 0x2A77),
   ("demptyv", 0x29B1), ("dsol", 0x29F6), ("dwangle", 0x29A6), ("eDDot", 0x2A77),
   ("easter", 0x2A6E), ("eg", 0x2A9A), ("egs", 0x2A96), ("egsdot", 0x2A98), ("el", 0x2A99),
   ("els", 0x2A95), ("elsdot", 0x2A97), ("eparsl", 0x29E3), ("eplus", 0x2A71),
   ("eqslantgtr", 0x2A96), ("eqslantless", 0x2A95), ("equivDD", 0x2A78), ("eqvparsl", 0x29E5),
   ("forkv", 0x2AD9), ("fpartint", 0x2A0D), ("gEl", 0x2A8C), ("gap", 0x2A86), ("geqslant", 0x2A7E),
   ("ges", 0x2A7E), ("gescc", 0x2AA9), ("gesdot", 0x2A80), ("gesdoto", 0x2A82),
   ("gesdotol", 0x2A84), ("gesles", 0x2A94), ("glE", 0x2A92), ("gla", 0x2AA5), ("glj", 0x2AA4),
   ("gnap", 0x2A8A), ("gnapprox", 0x2A8A), ("gne", 0x2A88), ("gneq", 0x2A88), ("gsime", 0x2A8E),
   ("gsiml", 0x2A90), ("gtcc", 0x2AA7), ("gtcir", 0x2A7A), ("gtlPar", 0x2995), ("gtquest", 0x2A7C),
   ("gtrapprox", 0x2A86), ("gtreqqless", 0x2A8C), ("iiiint", 0x2A0C), ("iinfin", 0x29DC),
   ("infintie", 0x29DD), ("intlarhk", 0x2A17), ("intprod", 0x2A3C), ("iprod", 0x2A3C),
   ("lEg", 0x2A8B), ("laemptyv", 0x29B4), ("lang", 0x27E8), ("langd", 0x2991), ("langle", 0x27E8),
   ("lap", 0x2A85), ("lat", 0x2AAB), ("late", 0x2AAD), ("lbrke", 0x298B), ("lbrksld", 0x298F),
   ("lbrkslu", 0x298D), ("leqslant", 0x2A7D), ("les", 0x2A7D), ("lescc", 0x2AA8),
   ("lesdot", 0x2A7F), ("lesdoto", 0x2A81), ("lesdotor", 0x2A83), ("lesges", 0x2A93),
   ("lessapprox", 0x2A85), ("lesseqqgtr", 0x2A8B), ("lgE", 0x2A91), ("lnap", 0x2A89),
   ("lnapprox", 0x2A89), ("lne", 0x2A87), ("lneq", 0x2A87), ("loang", 0x27EC), ("lobrk", 0x27E6),
   ("lopar", 0x2985), ("loplus", 0x2A2D), ("lotimes", 0x2A34), ("lozf", 0x29EB),
   ("lparlt", 0x2993), ("lsime", 0x2A8D), ("lsimg", 0x2A8F), ("ltcc", 0x2AA6), ("ltcir", 0x2A79),
   ("ltquest", 0x2A7B), ("ltrPar", 0x2996), ("mcomma", 0x2A29), ("midcir", 0x2AF0),
   ("minusdu", 0x2A2A), ("mlcp", 0x2ADB), ("ncap", 0x2A43), ("ncup", 0x2A42), ("nhpar", 0x2AF2),
   ("npolint", 0x2A14), ("nvinfin", 0x29DE), ("odiv", 0x2A38), ("odsold", 0x29BC),
   ("ofcir", 0x29BF), ("ogt", 0x29C1), ("ohbar", 0x29B5), ("olcir", 0x29BE), ("olcross", 0x29BB),
   ("olt", 0x29C0), ("omid", 0x29B6), ("opar", 0x29B7), ("operp", 0x29B9), ("ord", 0x2A5D),
   ("oror", 0x2A56), ("orslope", 0x2A57), ("orv", 0x2A5B), ("otimesas", 0x2A36),
   ("parsim", 0x2AF3), ("parsl", 0x2AFD), ("plusacir", 0x2A23), ("pluscir", 0x2A22),
   ("plusdu", 0x2A25), ("pluse", 0x2A72), ("plussim", 0x2A26), ("plustwo", 0x2A27),
   ("pointint", 0x2A15), ("prE", 0x2AB3), ("prap", 0x2AB7), ("pre", 0x2AAF),
   ("precapprox", 0x2AB7), ("preceq", 0x2AAF), ("precnapprox", 0x2AB9), ("precneqq", 0x2AB5),
   ("prnE", 0x2AB5), ("prnap", 0x2AB9), ("qint", 0x2A0C), ("quatint", 0x2A16),
   ("raemptyv", 0x29B3), ("rang", 0x27E9), ("rangd", 0x2992), ("range", 0x29A5),
   ("rangle", 0x27E9), ("rbrke", 0x298C), ("rbrksld", 0x298E), ("rbrkslu", 0x2990),
   ("rnmid", 0x2AEE), ("roang", 0x27ED), ("robrk", 0x27E7), ("ropar", 0x2986), ("roplus", 0x2A2E),
   ("rotimes", 0x2A35), ("rpargt", 0x2994), ("rppolint", 0x2A12), ("rtriltri", 0x29CE),
   ("scE", 0x2AB4), ("scap", 0x2AB8), ("sce", 0x2AB0), ("scnE", 0x2AB6), ("scnap", 0x2ABA),
   ("scpolint", 0x2A13), ("sdote", 0x2A66), ("simdot", 0x2A6A), ("simg", 0x2A9E),
   ("simgE", 0x2AA0), ("siml", 0x2A9D), ("simlE", 0x2A9F), ("simplus", 0x2A24), ("smashp", 0x2A33),
   ("smeparsl", 0x29E4), ("smt", 0x2AAA), ("smte", 0x2AAC), ("solb", 0x29C4), ("subE", 0x2AC5),
   ("subdot", 0x2ABD), ("subedot", 0x2AC3), ("submult", 0x2AC1), ("subnE", 0x2ACB),
   ("subplus", 0x2ABF), ("subseteqq", 0x2AC5), ("subsetneqq", 0x2ACB), ("subsim", 0x2AC7),
   ("subsub", 0x2AD5), ("subsup", 0x2AD3), ("succapprox", 0x2AB8), ("succeq", 0x2AB0),
   ("succnapprox", 0x2ABA), ("succneqq", 0x2AB6), ("supE", 0x2AC6), ("supdot", 0x2ABE),
   ("supdsub", 0x2AD8), ("supedot", 0x2AC4), ("suphsol", 0x27C9), ("suphsub", 0x2AD7),
   ("supmult", 0x2AC2), ("supnE", 0x2ACC), ("supplus", 0x2AC0), ("supseteqq", 0x2AC6),
   ("supsetneqq", 0x2ACC), ("supsim", 0x2AC8), ("supsub", 0x2AD4), ("supsup", 0x2AD6),
   ("timesbar", 0x2A31), ("timesd", 0x2A30), ("topcir", 0x2AF1), ("topfork", 0x2ADA),
   ("triminus", 0x2A3A), ("triplus", 0x2A39), ("trisb", 0x29CD), ("tritime", 0x2A3B),
   ("uwangle", 0x29A7), ("vBar", 0x2AE8), ("vBarv", 0x2AE9), ("vangrt", 0x299C),
   ("vzigzag", 0x299A), ("wedbar", 0x2A5F), ("xodot", 0x2A00), ("xoplus", 0x2A01),
   ("xotime", 0x2A02), ("xsqcup", 0x2A06), ("xuplus", 0x2A04)]

/-- Technical signs, lines, boxes and shapes. -/
def symbolEntities : List (String × Nat) :=
  [("Barwed", 0x2306), ("EmptySmallSquare", 0x25FB), ("EmptyVerySmallSquare", 0x25AB),
   ("FilledSmallSquare", 0x25FC), ("FilledVerySmallSquare", 0x25AA), ("HorizontalLine", 0x2500),
   ("LeftCeiling", 0x2308), ("LeftFloor", 0x230A), ("OverBrace", 0x23DE), ("OverBracket", 0x23B4),
   ("OverParenthesis", 0x23DC), ("RightCeiling", 0x2309), ("RightFloor", 0x230B),
   ("Square", 0x25A1), ("UnderBrace", 0x23DF), ("UnderBracket", 0x23B5),
   ("UnderParenthesis", 0x23DD), ("VerticalSeparator", 0x2758), ("angzarr", 0x237C),
   ("barwed", 0x2305), ("barwedge", 0x2305), ("bbrk", 0x23B5), ("bbrktbrk", 0x23B6),
   ("bigcirc", 0x25EF), ("bigstar", 0x2605), ("bigtriangledown", 0x25BD),
   ("bigtriangleup", 0x25B3), ("blacksquare", 0x25AA), ("blacktriangle", 0x25B4),
   ("blacktriangledown", 0x25BE), ("blacktriangleleft", 0x25C2), ("blacktriangleright", 0x25B8),
   ("blank", 0x2423), ("blk12", 0x2592), ("blk14", 0x2591), ("blk34", 0x2593), ("block", 0x2588),
   ("bnot", 0x2310), ("boxDL", 0x2557), ("boxDR", 0x2554), ("boxDl", 0x2556), ("boxDr", 0x2553),
   ("boxH", 0x2550), ("boxHD", 0x2566), ("boxHU", 0x2569), ("boxHd", 0x2564), ("boxHu", 0x2567),
   ("boxUL", 0x255D), ("boxUR", 0x255A), ("boxUl", 0x255C), ("boxUr", 0x2559), ("boxV", 0x2551),
   ("boxVH", 0x256C), ("boxVL", 0x2563), ("boxVR", 0x2560), ("boxVh", 0x256B), ("boxVl", 0x2562),
   ("boxVr", 0x255F), ("boxdL", 0x2555), ("boxdR", 0x2552), ("boxdl", 0x2510), ("boxdr", 0x250C),
   ("boxh", 0x2500), ("boxhD", 0x2565), ("boxhU", 0x2568), ("boxhd", 0x252C), ("boxhu", 0x2534),
   ("boxuL", 0x255B), ("boxuR", 0x2558), ("boxul", 0x2518), ("boxur", 0x2514), ("boxv", 0x2502),
   ("boxvH", 0x256A), ("boxvL", 0x2561), ("boxvR", 0x255E), ("boxvh", 0x253C), ("boxvl", 0x2524),
   ("boxvr", 0x251C), ("check", 0x2713), ("checkmark", 0x2713), ("cir", 0x25CB),
   ("circledS", 0x24C8), ("clubs", 0x2663), ("clubsuit", 0x2663), ("cross", 0x2717),
   ("cylcty", 0x232D), ("diamondsuit", 0x2666), ("diams", 0x2666), ("dlcorn", 0x231E),
   ("dlcrop", 0x230D), ("doublebarwedge", 0x2306), ("drcorn", 0x231F), ("drcrop", 0x230C),
   ("dtri", 0x25BF), ("dtrif", 0x25BE), ("elinters", 0x23E7), ("female", 0x2640), ("flat", 0x266D),
   ("fltns", 0x25B1), ("frown", 0x2322), ("hearts", 0x2665), ("heartsuit", 0x2665),
   ("lbbrk", 0x2772), ("lceil", 0x2308), ("lfloor", 0x230A), ("lhblk", 0x2584),
   ("llcorner", 0x231E), ("lltri", 0x25FA), ("lmoust", 0x23B0), ("lmoustache", 0x23B0),
   ("loz", 0x25CA), ("lozenge", 0x25CA), ("lrcorner", 0x231F), ("ltri", 0x25C3), ("ltrif", 0x25C2),
   ("male", 0x2642), ("malt", 0x2720), ("maltese", 0x2720), ("marker", 0x25AE), ("natur", 0x266E),
   ("natural", 0x266E), ("oS", 0x24C8), ("ovbar", 0x233D), ("phone", 0x260E), ("profalar", 0x232E),
   ("profline", 0x2312), ("profsurf", 0x2313), ("rbbrk", 0x2773), ("rceil", 0x2309),
   ("rect", 0x25AD), ("rfloor", 0x230B), ("rmoust", 0x23B1), ("rmoustache", 0x23B1),
   ("rtri", 0x25B9), ("rtrif", 0x25B8), ("sext", 0x2736), ("sfrown", 0x2322), ("sharp", 0x266F),
   ("smile", 0x2323), ("solbar", 0x233F), ("spades", 0x2660), ("spadesuit", 0x2660),
   ("squ", 0x25A1), ("square", 0x25A1), ("squarf", 0x25AA), ("squf", 0x25AA), ("ssmile", 0x2323),
   ("star", 0x2606), ("starf", 0x2605), ("sung", 0x266A), ("target", 0x2316), ("tbrk", 0x23B4),
   ("telrec", 0x2315), ("topbot", 0x2336), ("triangle", 0x25B5), ("triangledown", 0x25BF),
   ("triangleleft", 0x25C3), ("triangleright", 0x25B9), ("tridot", 0x25EC), ("trpezium", 0x23E2),
   ("uhblk", 0x2580), ("ulcorn", 0x231C), ("ulcorner", 0x231C), ("ulcrop", 0x230F),
   ("ultri", 0x25F8), ("urcorn", 0x231D), ("urcorner", 0x231D), ("urcrop", 0x230E),
   ("urtri", 0x25F9), ("utri", 0x25B5), ("utrif", 0x25B4), ("xcirc", 0x25EF), ("xdtri", 0x25BD),
   ("xutri", 0x25B3)]

/-- Mathematical alphabets. -/
def alphabetEntities : List (String × Nat) :=
  [("Afr", 0x1D504), ("Aopf", 0x1D538), ("Ascr", 0x1D49C), ("Bfr", 0x1D505), ("Bopf", 0x1D539),
   ("Cscr", 0x1D49E), ("Dfr", 0x1D507), ("Dopf", 0x1D53B), ("Dscr", 0x1D49F), ("Efr", 0x1D508),
   ("Eopf", 0x1D53C), ("Ffr", 0x1D509), ("Fopf", 0x1D53D), ("Gfr", 0x1D50A), ("Gopf", 0x1D53E),
   ("Gscr", 0x1D4A2), ("Iopf", 0x1D540), ("Jfr", 0x1D50D), ("Jopf", 0x1D541), ("Jscr", 0x1D4A5),
   ("Kfr", 0x1D50E), ("Kopf", 0x1D542), ("Kscr", 0x1D4A6), ("Lfr", 0x1D50F), ("Lopf", 0x1D543),
   ("Mfr", 0x1D510), ("Mopf", 0x1D544), ("Nfr", 0x1D511), ("Nscr", 0x1D4A9), ("Ofr", 0x1D512),
   ("Oopf", 0x1D546), ("Oscr", 0x1D4AA), ("Pfr", 0x1D513), ("Pscr", 0x1D4AB), ("Qfr", 0x1D514),
   ("Qscr", 0x1D4AC), ("Sfr", 0x1D516), ("Sopf", 0x1D54A), ("Sscr", 0x1D4AE), ("Tfr", 0x1D517),
   ("Topf", 0x1D54B), ("Tscr", 0x1D4AF), ("Ufr", 0x1D518), ("Uopf", 0x1D54C), ("Uscr", 0x1D4B0),
   ("Vfr", 0x1D519), ("Vopf", 0x1D54D), ("Vscr", 0x1D4B1), ("Wfr", 0x1D51A), ("Wopf", 0x1D54E),
   ("Wscr", 0x1D4B2), ("Xfr", 0x1D51B), ("Xopf", 0x1D54F), ("Xscr", 0x1D4B3), ("Yfr", 0x1D51C),
   ("Yopf", 0x1D550), ("Yscr", 0x1D4B4), ("Zscr", 0x1D4B5), ("afr", 0x1D51E), ("aopf", 0x1D552),
   ("ascr", 0x1D4B6), ("bfr", 0x1D51F), ("bopf", 0x1D553), ("bscr", 0x1D4B7), ("cfr", 0x1D520),
   ("copf", 0x1D554), ("cscr", 0x1D4B8), ("dfr", 0x1D521), ("dopf", 0x1D555), ("dscr", 0x1D4B9),
   ("efr", 0x1D522), ("eopf", 0x1D556), ("ffr", 0x1D523), ("fopf", 0x1D557), ("fscr", 0x1D4BB),
   ("gfr", 0x1D524), ("gopf", 0x1D558), ("hfr", 0x1D525), ("hopf", 0x1D559), ("hscr", 0x1D4BD),
   ("ifr", 0x1D526), ("iopf", 0x1D55A), ("iscr", 0x1D4BE), ("jfr", 0x1D527), ("jopf", 0x1D55B),
   ("jscr", 0x1D4BF), ("kfr", 0x1D528), ("kopf", 0x1D55C), ("kscr", 0x1D4C0), ("lfr", 0x1D529),
   ("lopf", 0x1D55D), ("lscr", 0x1D4C1), ("mfr", 0x1D52A), ("mopf", 0x1D55E), ("mscr", 0x1D4C2),
   ("nfr", 0x1D52B), ("nopf", 0x1D55F), ("nscr", 0x1D4C3), ("ofr", 0x1D52C), ("oopf", 0x1D560),
   ("pfr", 0x1D52D), ("popf", 0x1D561), ("pscr", 0x1D4C5), ("qfr", 0x1D52E), ("qopf", 0x1D562),
   ("qscr", 0x1D4C6), ("rfr", 0x1D52F), ("ropf", 0x1D563), ("rscr", 0x1D4C7), ("sfr", 0x1D530),
   ("sopf", 0x1D564), ("sscr", 0x1D4C8), ("tfr", 0x1D531), ("topf", 0x1D565), ("tscr", 0x1D4C9),
   ("ufr", 0x1D532), ("uopf", 0x1D566), ("uscr", 0x1D4CA), ("vfr", 0x1D533), ("vopf", 0x1D567),
   ("vscr", 0x1D4CB), ("wfr", 0x1D534), ("wopf", 0x1D568), ("wscr", 0x1D4CC), ("xfr", 0x1D535),
   ("xopf", 0x1D569), ("xscr", 0x1D4CD), ("yfr", 0x1D536), ("yopf", 0x1D56A), ("yscr", 0x1D4CE),
   ("zfr", 0x1D537), ("zopf", 0x1D56B), ("zscr", 0x1D4CF)]

/-- Names of two characters: most are an operator and a mark that strikes it out or varies it. -/
def pairEntities : List (String × Nat × Nat) :=
  [("NotEqualTilde", 0x2242, 0x338), ("NotGreaterFullEqual", 0x2267, 0x338),
   ("NotGreaterGreater", 0x226B, 0x338), ("NotGreaterSlantEqual", 0x2A7E, 0x338),
   ("NotHumpDownHump", 0x224E, 0x338), ("NotHumpEqual", 0x224F, 0x338),
   ("NotLeftTriangleBar", 0x29CF, 0x338), ("NotLessLess", 0x226A, 0x338),
   ("NotLessSlantEqual", 0x2A7D, 0x338), ("NotNestedGreaterGreater", 0x2AA2, 0x338),
   ("NotNestedLessLess", 0x2AA1, 0x338), ("NotPrecedesEqual", 0x2AAF, 0x338),
   ("NotRightTriangleBar", 0x29D0, 0x338), ("NotSquareSubset", 0x228F, 0x338),
   ("NotSquareSuperset", 0x2290, 0x338), ("NotSubset", 0x2282, 0x20D2),
   ("NotSucceedsEqual", 0x2AB0, 0x338), ("NotSucceedsTilde", 0x227F, 0x338),
   ("NotSuperset", 0x2283, 0x20D2), ("ThickSpace", 0x205F, 0x200A), ("acE", 0x223E, 0x333),
   ("bne", 0x3D, 0x20E5), ("bnequiv", 0x2261, 0x20E5), ("caps", 0x2229, 0xFE00),
   ("cups", 0x222A, 0xFE00), ("fjlig", 0x66, 0x6A), ("gesl", 0x22DB, 0xFE00),
   ("gvertneqq", 0x2269, 0xFE00), ("gvnE", 0x2269, 0xFE00), ("lates", 0x2AAD, 0xFE00),
   ("lesg", 0x22DA, 0xFE00), ("lvertneqq", 0x2268, 0xFE00), ("lvnE", 0x2268, 0xFE00),
   ("nGg", 0x22D9, 0x338), ("nGt", 0x226B, 0x20D2), ("nGtv", 0x226B, 0x338),
   ("nLl", 0x22D8, 0x338), ("nLt", 0x226A, 0x20D2), ("nLtv", 0x226A, 0x338),
   ("nang", 0x2220, 0x20D2), ("napE", 0x2A70, 0x338), ("napid", 0x224B, 0x338),
   ("nbump", 0x224E, 0x338), ("nbumpe", 0x224F, 0x338), ("ncongdot", 0x2A6D, 0x338),
   ("nedot", 0x2250, 0x338), ("nesim", 0x2242, 0x338), ("ngE", 0x2267, 0x338),
   ("ngeqq", 0x2267, 0x338), ("ngeqslant", 0x2A7E, 0x338), ("nges", 0x2A7E, 0x338),
   ("nlE", 0x2266, 0x338), ("nleqq", 0x2266, 0x338), ("nleqslant", 0x2A7D, 0x338),
   ("nles", 0x2A7D, 0x338), ("notinE", 0x22F9, 0x338), ("notindot", 0x22F5, 0x338),
   ("nparsl", 0x2AFD, 0x20E5), ("npart", 0x2202, 0x338), ("npre", 0x2AAF, 0x338),
   ("npreceq", 0x2AAF, 0x338), ("nrarrc", 0x2933, 0x338), ("nrarrw", 0x219D, 0x338),
   ("nsce", 0x2AB0, 0x338), ("nsubE", 0x2AC5, 0x338), ("nsubset", 0x2282, 0x20D2),
   ("nsubseteqq", 0x2AC5, 0x338), ("nsucceq", 0x2AB0, 0x338), ("nsupE", 0x2AC6, 0x338),
   ("nsupset", 0x2283, 0x20D2), ("nsupseteqq", 0x2AC6, 0x338), ("nvap", 0x224D, 0x20D2),
   ("nvge", 0x2265, 0x20D2), ("nvgt", 0x3E, 0x20D2), ("nvle", 0x2264, 0x20D2),
   ("nvlt", 0x3C, 0x20D2), ("nvltrie", 0x22B4, 0x20D2), ("nvrtrie", 0x22B5, 0x20D2),
   ("nvsim", 0x223C, 0x20D2), ("race", 0x223D, 0x331), ("smtes", 0x2AAC, 0xFE00),
   ("sqcaps", 0x2293, 0xFE00), ("sqcups", 0x2294, 0xFE00), ("varsubsetneq", 0x228A, 0xFE00),
   ("varsubsetneqq", 0x2ACB, 0xFE00), ("varsupsetneq", 0x228B, 0xFE00),
   ("varsupsetneqq", 0x2ACC, 0xFE00), ("vnsub", 0x2282, 0x20D2), ("vnsup", 0x2283, 0x20D2),
   ("vsubnE", 0x2ACB, 0xFE00), ("vsubne", 0x228A, 0xFE00), ("vsupnE", 0x2ACC, 0xFE00),
   ("vsupne", 0x228B, 0xFE00)]

/-- All names of one character. -/
def entities : List (String × Nat) :=
  markupEntities ++ latinEntities ++ punctuationEntities ++ greekEntities ++ letterlikeEntities ++
    arrowEntities ++ operatorEntities ++ supplementalOperatorEntities ++ symbolEntities ++
    cyrillicEntities ++ alphabetEntities

end Quarry.Markup
