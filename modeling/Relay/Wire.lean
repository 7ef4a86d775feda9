import Relay.Network

/-!
Replies as bytes on a connection that closes behind them: a status line, header lines, an empty
line and a body. The body is framed by chunks, by a length, or by the close.
-/

namespace Relay.Wire

def lf : UInt8 := 10

def cr : UInt8 := 13

def takeLine? : Bytes → Option (Bytes × Bytes)
  | [] => none
  | b :: rest =>
    if b = lf then some ([], rest)
    else match takeLine? rest with
      | none => none
      | some (line, rest) => some (if b = cr ∧ line = [] then [] else b :: line, rest)

theorem takeLine?_length (bs line rest : Bytes) (h : takeLine? bs = some (line, rest)) :
    rest.length < bs.length := by
  induction bs generalizing line rest with
  | nil => simp [takeLine?] at h
  | cons b bs ih =>
    rw [takeLine?] at h
    split at h
    · simp only [Option.some.injEq, Prod.mk.injEq] at h
      simp [h.2]
    · split at h
      · simp at h
      · rename_i line' rest' heq
        simp only [Option.some.injEq, Prod.mk.injEq] at h
        have := ih line' rest' heq
        simp only [← h.2, List.length_cons]
        omega

def chars (bs : Bytes) : List Char := bs.map fun b => Char.ofNat b.toNat

def isBlank (b : UInt8) : Bool := b = 32 || b = 9

def trim (bs : Bytes) : Bytes :=
  ((bs.dropWhile isBlank).reverse.dropWhile isBlank).reverse

/-! ### The head -/

def status (line : Bytes) : Except HeadFault UInt16 :=
  let cs := chars line
  if cs.take 9 ≠ "HTTP/1.1 ".toList ∧ cs.take 9 ≠ "HTTP/1.0 ".toList then .error .version
  else match Ascii.decimal? ((cs.drop 9).take 3), (cs.drop 12).head? with
    | some n, none => if 100 ≤ n then .ok (.ofNat n) else .error .status
    | some n, some ' ' => if 100 ≤ n then .ok (.ofNat n) else .error .status
    | _, _ => .error .status

def field (line : Bytes) : Except HeadFault (String × Bytes) :=
  let name := String.ofList (chars (line.takeWhile (· ≠ 58)))
  let value := trim ((line.dropWhile (· ≠ 58)).drop 1)
  if line.contains 58 && Http.isHeaderName name && Http.isHeaderValue value then .ok (Ascii.lower name, value)
  else .error .header

def fields (bs : Bytes) : Except HeadFault (Http.Headers × Bytes) :=
  match _h : takeLine? bs with
  | none => .error .closed
  | some ([], rest) => .ok ([], rest)
  | some (line, rest) => do
    let f ← field line
    let (more, rest) ← fields rest
    return (f :: more, rest)
termination_by bs.length
decreasing_by exact takeLine?_length _ _ _ ‹_›

/-! ### The body -/

def chunks : Nat → Bytes → Except BodyFault Bytes
  | 0, _ => .error .cutShort
  | fuel + 1, bs =>
    match takeLine? bs with
    | none => .error .cutShort
    | some (line, rest) =>
      match (chars line).takeWhile Ascii.isHexDigit with
      | [] => .error .chunkSize
      | digits =>
        let size := digits.foldl (fun n c => 16 * n + (Ascii.hexValue? c).getD 0) 0
        if size = 0 then .ok []
        else if rest.length < size then .error .cutShort
        else match takeLine? (rest.drop size) with
          | some ([], after) => (chunks fuel after).map (rest.take size ++ ·)
          | _ => .error .cutShort

inductive Framing
  | none
  | chunked
  | length (n : Nat)
  | close
deriving DecidableEq, Repr

def framing (status : UInt16) (headers : Http.Headers) : Except HeadFault Framing :=
  let lengths := (headers.values "content-length").map fun v => Ascii.decimal? (chars v)
  if status = 204 ∨ status = 304 then .ok .none
  -- chunks count more than a length
  else if (headers.values "transfer-encoding").any fun v => Ascii.lower (String.ofList (chars v)) == "chunked"
  then .ok .chunked
  else match lengths with
    | [] => .ok .close
    | some n :: others => if others.all (· == some n) then .ok (.length n) else .error .contentLength
    | _ => .error .contentLength

def Framing.read (framing : Framing) (bs : Bytes) : Except BodyFault Bytes :=
  match framing with
  | .none => .ok []
  | .chunked => chunks (bs.length + 1) bs
  | .length n => if bs.length < n then .error .cutShort else .ok (bs.take n)
  | .close => .ok bs

/-! ### Replies -/

def read (bs : Bytes) : Reply :=
  let result : Except HeadFault Reply := do
    let some (line, rest) := takeLine? bs | throw .closed
    let code ← status line
    let (headers, rest) ← fields rest
    let framing ← framing code headers
    return .answer code headers (framing.read rest)
  match result with
  | .ok reply => reply
  | .error fault => .unreadable fault

def line (s : String) : Bytes := Utf8.encode s ++ [cr, lf]

/-- A reply as bytes. The length is added unless the headers frame the body or there is none. -/
def write (code : UInt16) (headers : List (String × Bytes)) (body : Bytes) : Bytes :=
  let isFramed := headers.any fun h =>
    ["content-length", "transfer-encoding"].contains (Ascii.lower h.1)
  let hasBody := code ≠ 204 && code ≠ 304
  let length := if isFramed || !hasBody then [] else line s!"Content-Length: {body.length}"
  line s!"HTTP/1.1 {code.toNat} Status" ++ line "Connection: close"
    ++ headers.flatMap (fun h => Utf8.encode (h.1 ++ ": ") ++ h.2 ++ [cr, lf]) ++ length ++ [cr, lf]
    ++ (if hasBody then body else [])

end Relay.Wire
