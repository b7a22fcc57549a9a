/-
  Letters, and digits of every kind, of Unicode 14. A word character is a letter unless it is a numeral
  or the underscore; numerals are digits, in a decimal system or not, and signs for other numbers.
-/
import Localize.Text.Word

namespace Localize.Text

/-- Boundaries of the numerals above ASCII that are no letters. -/
def numeralWords : List String :=
  ["b2 b4 b9 ba bc bf 660 66a 6f0 6fa 7c0 7ca 966 970 9e6 9f0 9f4 9fa a66 a70 ae6 af0 b66 b70",
   "b72 b78 be6 bf3 c66 c70 c78 c7f ce6 cf0 d58 d5f d66 d79 de6 df0 e50 e5a ed0 eda f20 f34 1040",
   "104a 1090 109a 1369 137d 16ee 16f1 17e0 17ea 17f0 17fa 1810 181a 1946 1950 19d0 19db 1a80",
   "1a8a 1a90 1a9a 1b50 1b5a 1bb0 1bba 1c40 1c4a 1c50 1c5a 2070 2071 2074 207a 2080 208a 2150",
   "2183 2185 218a 2460 249c 24ea 2500 2776 2794 2cfd 2cfe 3007 3008 3021 302a 3038 303b 3192",
   "3196 3220 322a 3248 3250 3251 3260 3280 328a 32b1 32c0 a620 a62a a6e6 a6f0 a830 a836 a8d0",
   "a8da a900 a90a a9d0 a9da a9f0 a9fa aa50 aa5a abf0 abfa ff10 ff1a 10107 10134 10140 10179",
   "1018a 1018c 102e1 102fc 10320 10324 10341 10342 1034a 1034b 103d1 103d6 104a0 104aa 10858",
   "10860 10879 10880 108a7 108b0 108fb 10900 10916 1091c 109bc 109be 109c0 109d0 109d2 10a00",
   "10a40 10a49 10a7d 10a7f 10a9d 10aa0 10aeb 10af0 10b58 10b60 10b78 10b80 10ba9 10bb0 10cfa",
   "10d00 10d30 10d3a 10e60 10e7f 10f1d 10f27 10f51 10f55 10fc5 10fcc 11052 11070 110f0 110fa",
   "11136 11140 111d0 111da 111e1 111f5 112f0 112fa 11450 1145a 114d0 114da 11650 1165a 116c0",
   "116ca 11730 1173c 118e0 118f3 11950 1195a 11c50 11c6d 11d50 11d5a 11da0 11daa 11fc0 11fd5",
   "12400 1246f 16a60 16a6a 16ac0 16aca 16b50 16b5a 16b5b 16b62 16e80 16e97 1d2e0 1d2f4 1d360",
   "1d379 1d7ce 1d800 1e140 1e14a 1e2f0 1e2fa 1e8c7 1e8d0 1e950 1e95a 1ec71 1ecac 1ecad 1ecb0",
   "1ecb1 1ecb5 1ed01 1ed2e 1ed2f 1ed3e 1f100 1f10d 1fbf0 1fbfa"]

/-- Boundaries of the digits above ASCII that belong to no decimal system. -/
def digitSignWords : List String :=
  ["b2 b4 b9 ba 1369 1372 19da 19db 2070 2071 2074 207a 2080 208a 2460 2469 2474 247d 2488 2491",
   "24ea 24eb 24f5 24fe 24ff 2500 2776 277f 2780 2789 278a 2793 10a40 10a44 10e60 10e69 11052",
   "1105b 1f100 1f10b"]

/-- The numerals above ASCII that are no letters. -/
def numeralBoundaries : Boundaries := hexWords numeralWords

/-- The digits above ASCII that belong to no decimal system. -/
def digitSignBoundaries : Boundaries := hexWords digitSignWords

/-- A letter of any script. -/
def isLetter (c : Char) : Bool :=
  if c.toNat < 128 then c.isAlpha else isWord c && !numeralBoundaries.holds c.toNat

/-- A digit of any script, raised, lowered, circled or not. -/
def isDigitSign (c : Char) : Bool :=
  (decimalDigit? c).isSome || 128 ≤ c.toNat && digitSignBoundaries.holds c.toNat

end Localize.Text
