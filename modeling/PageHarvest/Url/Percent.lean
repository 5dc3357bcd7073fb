import PageHarvest.Css.Scan

namespace PageHarvest.Url

/-- Characters that are encoded wherever they stand in a URL. -/
def isUnprintable (c : Char) : Bool :=
  c.toNat < 0x20 || 0x7E < c.toNat

def needsFragmentCode (c : Char) : Bool :=
  isUnprintable c || [' ', '"', '<', '>', '`'].contains c

def needsQueryCode (c : Char) : Bool :=
  isUnprintable c || [' ', '"', '#', '<', '>'].contains c

def needsSpecialQueryCode (c : Char) : Bool :=
  needsQueryCode c || c == '\''

def needsPathCode (c : Char) : Bool :=
  needsFragmentCode c || ['#', '?', '\x7b', '\x7d'].contains c

def needsUserCode (c : Char) : Bool :=
  needsPathCode c || ['/', ':', ';', '=', '@', '[', '\\', ']', '^', '|'].contains c

def upperHexDigit (n : Nat) : Char :=
  Char.ofNat (if n < 10 then 0x30 + n else 0x37 + n)

def encodeByte (b : UInt8) : List Char :=
  ['%', upperHexDigit (b.toNat / 16), upperHexDigit (b.toNat % 16)]

/-- Encodes the characters of a kind by the bytes that they are written with. -/
def encode (needsCode : Char → Bool) (s : List Char) : List Char :=
  s.flatMap fun c =>
    if needsCode c then (String.utf8EncodeChar c).flatMap encodeByte else [c]

def decodeBytes : List Char → List UInt8
  | '%' :: h :: l :: r =>
    if Css.isHexDigit h && Css.isHexDigit l then
      UInt8.ofNat (16 * Css.hexDigitValue h + Css.hexDigitValue l) :: decodeBytes r
    else '%'.toNat.toUInt8 :: decodeBytes (h :: l :: r)
  | c :: r => String.utf8EncodeChar c ++ decodeBytes r
  | [] => []
termination_by s => s.length

def decode? (s : List Char) : Option (List Char) :=
  (String.fromUTF8? (ByteArray.mk (decodeBytes s).toArray)).map String.toList

end PageHarvest.Url
