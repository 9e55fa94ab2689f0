import SecurityDashboards.Lib.UrlEncoding

/-!
# Decoding of URIs

`decodeURIComponent` and `decodeURI`. Unlike the decoder of forms they refuse a text that is not well
formed; `none` stands for the `URIError`.
-/

namespace Js

open UrlEncoding

/-- A part of a text: a character, or a byte with the text that stands for it. -/
inductive UriPart where
  | char (c : Char)
  | byte (b : ℕ) (text : List Char)

/-- Every percent sign is followed by two digits. -/
def uriParts : List Char → Option (List UriPart)
  | [] => some []
  | c :: h :: l :: rest =>
    if c = '%' then
      match hexValue h, hexValue l with
      | some high, some low =>
        (uriParts rest).map (UriPart.byte (16 * high + low) ['%', h, l] :: ·)
      | _, _ => none
    else (uriParts (h :: l :: rest)).map (UriPart.char c :: ·)
  | c :: rest => if c = '%' then none else (uriParts rest).map (UriPart.char c :: ·)

/-- The bytes of a character follow each other. The characters of the set stay in their encoding. -/
def decodeParts (preserve : Char → Bool) : Option Pending → List UriPart → Option (List Char)
  | none, [] => some []
  | some _, [] => none
  | none, .char c :: parts => (decodeParts preserve none parts).map (c :: ·)
  | some _, .char _ :: _ => none
  | none, .byte b text :: parts =>
    if b ≤ 0x7F then
      (decodeParts preserve none parts).map
        ((if preserve (Char.ofNat b) then text else [Char.ofNat b]) ++ ·)
    else if 0xC2 ≤ b ∧ b ≤ 0xF4 then decodeParts preserve (startByte b).2 parts
    else none
  | some pending, .byte b _ :: parts =>
    if pending.lower ≤ b ∧ b ≤ pending.upper then
      (decodeParts preserve (decodeByte (some pending) b).2 parts).map
        ((decodeByte (some pending) b).1 ++ ·)
    else none

def decode (preserve : Char → Bool) (s : String) : Option String :=
  ((uriParts s.toList).bind (decodeParts preserve none)).map String.ofList

def decodeURIComponent (s : String) : Option String := decode (fun _ => false) s

/-- The characters that mean something in a URI. -/
def isUriReserved (c : Char) : Bool := ";/?:@&=+$,#".toList.contains c

def decodeURI (s : String) : Option String := decode isUriReserved s

end Js
