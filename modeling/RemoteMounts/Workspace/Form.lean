/-!
# Form encoding

The parameters of a query are encoded byte by byte: letters, digits and four marks stand for
themselves, a space is a plus sign, and any other byte is a percent sign and two hexadecimal digits.
-/

namespace RemoteMounts.Form

/-- Whether the byte stands for itself. -/
def isPlain (b : UInt8) : Bool :=
  let c := Char.ofNat b.toNat
  b < 128 && (c.isAlphanum || c = '*' || c = '-' || c = '.' || c = '_')

/-- A hexadecimal digit in upper case. -/
def hexDigit (n : Nat) : Char :=
  if n < 10 then Char.ofNat (48 + n) else Char.ofNat (55 + n)

def byteChars (b : UInt8) : List Char :=
  if isPlain b then [Char.ofNat b.toNat]
  else if b = 32 then ['+']
  else ['%', hexDigit (b.toNat / 16), hexDigit (b.toNat % 16)]

def encode (s : String) : String :=
  String.ofList (s.toUTF8.data.toList.flatMap byteChars)

/-- A parameter, its name and its value, as it is written. -/
def parameter (p : String × String) : String :=
  encode p.1 ++ "=" ++ encode p.2

def query (parameters : List (String × String)) : String :=
  "&".intercalate (parameters.map parameter)

end RemoteMounts.Form
