/-! Decoding UTF-8. Overlong forms, surrogates and values above `10FFFF` are refused as early as
the second byte, so a broken sequence is reported with the bytes that could still begin a
character. -/
namespace AgentTranscript.Text.Utf8

/-- Bytes that are no character, from this index on: either followed by a byte that does not fit,
with the number of bytes that did fit, or cut short by the end. -/
inductive Fault where
  | invalid (count index : Nat)
  | incomplete (index : Nat)

def Fault.message : Fault → String
  | .invalid count index =>
    "invalid utf-8 sequence of " ++ toString count ++ " bytes from index " ++ toString index
  | .incomplete index => "incomplete utf-8 byte sequence from index " ++ toString index

def isContinuation (b : UInt8) : Bool := 0x80 ≤ b && b ≤ 0xBF

def fitsSecond (lead second : UInt8) : Bool :=
  isContinuation second &&
    (if lead = 0xE0 then 0xA0 ≤ second
    else if lead = 0xED then second ≤ 0x9F
    else if lead = 0xF0 then 0x90 ≤ second
    else if lead = 0xF4 then second ≤ 0x8F
    else true)

def extend (value : Nat) (b : UInt8) : Nat := value * 64 + b.toNat % 64

def decodeFrom (index : Nat) : List UInt8 → Except Fault (List Char)
  | [] => .ok []
  | a :: rest =>
    if a < 0x80 then (Char.ofNat a.toNat :: ·) <$> decodeFrom (index + 1) rest
    else if 0xC2 ≤ a ∧ a ≤ 0xDF then
      match rest with
      | [] => .error (.incomplete index)
      | b :: rest =>
        if isContinuation b then
          (Char.ofNat (extend (a.toNat % 32) b) :: ·) <$> decodeFrom (index + 2) rest
        else .error (.invalid 1 index)
    else if 0xE0 ≤ a ∧ a ≤ 0xEF then
      match rest with
      | [] => .error (.incomplete index)
      | b :: rest =>
        if !fitsSecond a b then .error (.invalid 1 index)
        else
          match rest with
          | [] => .error (.incomplete index)
          | c :: rest =>
            if isContinuation c then
              (Char.ofNat (extend (extend (a.toNat % 16) b) c) :: ·) <$>
                decodeFrom (index + 3) rest
            else .error (.invalid 2 index)
    else if 0xF0 ≤ a ∧ a ≤ 0xF4 then
      match rest with
      | [] => .error (.incomplete index)
      | b :: rest =>
        if !fitsSecond a b then .error (.invalid 1 index)
        else
          match rest with
          | [] => .error (.incomplete index)
          | c :: rest =>
            if !isContinuation c then .error (.invalid 2 index)
            else
              match rest with
              | [] => .error (.incomplete index)
              | d :: rest =>
                if isContinuation d then
                  (Char.ofNat (extend (extend (extend (a.toNat % 8) b) c) d) :: ·) <$>
                    decodeFrom (index + 4) rest
                else .error (.invalid 3 index)
    else .error (.invalid 1 index)

def decode (bytes : List UInt8) : Except Fault (List Char) := decodeFrom 0 bytes

end AgentTranscript.Text.Utf8
