import RecordMapper.Json.Reader

/-! # JSON in bytes

A JSON text given as bytes is in one of the Unicode encodings. A byte order mark tells which;
without one, the zeros among the first bytes do. Half a pair of 16-bit units is let through. -/

namespace RecordMapper.Json

/-- An encoding of text in bytes, by units of one, two or four of them. -/
inductive Encoding where
  | utf8
  | utf16 (bigEndian : Bool)
  | utf32 (bigEndian : Bool)
deriving DecidableEq, Repr

/-- The encoding of a JSON text, and its bytes without the byte order mark. -/
def detect (bs : List UInt8) : Encoding × List UInt8 :=
  match bs with
  | 0 :: 0 :: 0xfe :: 0xff :: rest => (.utf32 true, rest)
  | 0xff :: 0xfe :: 0 :: 0 :: rest => (.utf32 false, rest)
  | 0xfe :: 0xff :: rest => (.utf16 true, rest)
  | 0xff :: 0xfe :: rest => (.utf16 false, rest)
  | 0xef :: 0xbb :: 0xbf :: rest => (.utf8, rest)
  | a :: b :: c :: d :: _ =>
    if a = 0 then (if b ≠ 0 then .utf16 true else .utf32 true, bs)
    else if b = 0 then (if c ≠ 0 ∨ d ≠ 0 then .utf16 false else .utf32 false, bs)
    else (.utf8, bs)
  | [a, b] => (if a = 0 then .utf16 true else if b = 0 then .utf16 false else .utf8, bs)
  | _ => (.utf8, bs)

/-- The six low bits of a byte that continues a character. -/
def continuation? (b : UInt8) : Option Nat :=
  if 0x80 ≤ b ∧ b < 0xc0 then some (b.toNat - 0x80) else none

/-- Decodes characters of one to four bytes, none of them longer than it needs to be. -/
def decodeUtf8 : List UInt8 → Option (List Char)
  | [] => some []
  | a :: rest =>
    if a < 0x80 then (decodeUtf8 rest).map (Char.ofNat a.toNat :: ·)
    else match rest with
    | [] => none
    | b :: rest =>
      match continuation? b with
      | none => none
      | some y =>
        if 0xc2 ≤ a ∧ a < 0xe0 then
          (decodeUtf8 rest).map (Char.ofNat ((a.toNat - 0xc0) * 0x40 + y) :: ·)
        else match rest with
        | [] => none
        | c :: rest =>
          match continuation? c with
          | none => none
          | some z =>
            if 0xe0 ≤ a ∧ a < 0xf0 then
              let n := ((a.toNat - 0xe0) * 0x40 + y) * 0x40 + z
              if n < 0x800 then none else (decodeUtf8 rest).map (Text.unitChar n :: ·)
            else match rest with
            | [] => none
            | d :: rest =>
              match continuation? d with
              | none => none
              | some w =>
                let n := (((a.toNat - 0xf0) * 0x40 + y) * 0x40 + z) * 0x40 + w
                if 0xf0 ≤ a ∧ 0x10000 ≤ n ∧ n < 0x110000 then
                  (decodeUtf8 rest).map (Char.ofNat n :: ·)
                else none

/-- The units of two bytes; none when a byte is left over. -/
def units16 (bigEndian : Bool) : List UInt8 → Option (List Nat)
  | [] => some []
  | [_] => none
  | a :: b :: rest =>
    let n := if bigEndian then a.toNat * 0x100 + b.toNat else b.toNat * 0x100 + a.toNat
    (units16 bigEndian rest).map (n :: ·)

/-- Decodes units of four bytes. -/
def decodeUtf32 (bigEndian : Bool) : List UInt8 → Option (List Char)
  | [] => some []
  | a :: b :: c :: d :: rest =>
    let bytes := if bigEndian then [a, b, c, d] else [d, c, b, a]
    let n := bytes.foldl (fun acc x => acc * 0x100 + x.toNat) 0
    if n < 0x110000 then (decodeUtf32 bigEndian rest).map (Text.unitChar n :: ·) else none
  | _ => none

/-- Decodes bytes, if they are well formed. -/
def Encoding.decode? : Encoding → List UInt8 → Option (List Char)
  | .utf8, bs => decodeUtf8 bs
  | .utf16 bigEndian, bs => (units16 bigEndian bs).map Text.joinPairs
  | .utf32 bigEndian, bs => decodeUtf32 bigEndian bs

/-- The characters of a JSON text given as bytes. -/
def decode? (bs : List UInt8) : Option (List Char) :=
  let (encoding, body) := detect bs
  encoding.decode? body

end RecordMapper.Json
