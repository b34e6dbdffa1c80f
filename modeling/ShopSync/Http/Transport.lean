import ShopSync.Http.Address
import ShopSync.Http.Request
import ShopSync.Http.Response
import ShopSync.Text.Lossy

/-!
Requests and answers as the bytes on a connection.

What can be sent has an address, and header fields whose values hold no control characters.  It is
a line, the header fields, and a body of known length.  An answer is read from what has come of it
so far, and `Arrival` says whether that is enough: its body ends with the last chunk, after its
length, or with the connection.
-/

namespace ShopSync.Http

open Number (isDigit ofDigits)

/-! ### Requests -/

/-- The name under which requests are sent. -/
def agent : String := "shopsync/0.1.0"

namespace Request

/-- Whether a text can be the value of a header field. -/
def isFieldValue (s : String) : Bool :=
  s.toList.all fun c => c = '\t' || (decide (0x20 ≤ c.toNat) && c.toNat ≠ 0x7f)

/-- Where the request goes, or why it goes nowhere. -/
def destination (request : Request) : Except Failure Address :=
  match Address.parse? request.url with
  | none => .error (.invalid "no address")
  | some address =>
    if request.headers.all fun field => isFieldValue field.2 then .ok address
    else .error (.invalid "no value of a header field")

/-- The header fields of a request on a connection of its own. -/
def fields (request : Request) (address : Address) : List (String × String) :=
  let length := match request.body with
    | none => []
    | some body => [("content-length", toString body.utf8ByteSize)]
  [("host", address.authority), ("user-agent", agent), ("accept", "*/*"), ("connection", "close")]
    ++ request.headers ++ length

/-- The request as bytes. -/
def bytes (request : Request) (address : Address) : ByteArray :=
  let line := s!"{request.method.word} {address.target} HTTP/1.1\r\n"
  let fields := (request.fields address).map fun (name, value) => s!"{name}: {value}\r\n"
  (line ++ String.join fields ++ "\r\n" ++ request.body.getD "").toUTF8

end Request

/-! ### Lines and header fields -/

/-- The bytes of the first line and those after it. -/
def line? : List UInt8 → Option (List UInt8 × List UInt8)
  | [] => none
  | 10 :: rest => some ([], rest)
  | 13 :: 10 :: rest => some ([], rest)
  | b :: rest => (line? rest).map fun (line, rest) => (b :: line, rest)

/-- A line takes at least one byte. -/
theorem length_lt_of_line? {bs line rest : List UInt8} (h : line? bs = some (line, rest)) :
    rest.length < bs.length := by
  fun_induction line? bs generalizing line with
  | case1 => simp at h
  | case2 rest' =>
    simp only [Option.some.injEq, Prod.mk.injEq] at h
    simp only [← h.2, List.length_cons]
    omega
  | case3 rest' =>
    simp only [Option.some.injEq, Prod.mk.injEq] at h
    simp only [← h.2, List.length_cons]
    omega
  | case4 b rest' _ _ ih =>
    obtain ⟨⟨line', after⟩, hl, he⟩ := Option.map_eq_some_iff.1 h
    simp only [Prod.mk.injEq] at he
    have := ih (he.2 ▸ hl)
    simp only [List.length_cons]
    omega

/-- The characters of a line. -/
def lineText (line : List UInt8) : List Char :=
  line.map fun b => Char.ofNat b.toNat

/-- The name of a header field, in lower case, and its value. -/
def field (line : List UInt8) : String × String :=
  let cs := lineText line
  ((String.ofList (cs.takeWhile (· ≠ ':'))).toLower,
    Text.trim (String.ofList ((cs.dropWhile (· ≠ ':')).drop 1)))

/-- The header fields up to an empty line, and the bytes after it. -/
def fields? (bs : List UInt8) : Option (List (String × String) × List UInt8) :=
  match h : line? bs with
  | none => none
  | some ([], rest) => some ([], rest)
  | some (line, rest) =>
    have := length_lt_of_line? h
    (fields? rest).map fun (fs, rest) => (field line :: fs, rest)
termination_by bs.length

theorem length_lt_of_fields? {bs rest : List UInt8} {fs : List (String × String)}
    (h : fields? bs = some (fs, rest)) : rest.length < bs.length := by
  fun_induction fields? bs generalizing fs with
  | case1 => simp at h
  | case2 bs rest' hl =>
    simp only [Option.some.injEq, Prod.mk.injEq] at h
    exact h.2 ▸ length_lt_of_line? hl
  | case3 bs line rest' _ hl _ ih =>
    obtain ⟨⟨fs', after⟩, hf, he⟩ := Option.map_eq_some_iff.1 h
    simp only [Prod.mk.injEq] at he
    exact Nat.lt_trans (ih (he.2 ▸ hf)) (length_lt_of_line? hl)

/-! ### Bodies -/

/-- How the end of a body is known. -/
inductive Framing where
  /-- There is no body. -/
  | absent
  | chunks
  | length (count : Nat)
  /-- The body ends with the connection. -/
  | connection
deriving DecidableEq, Repr

/-- How the end of the body is known for an answer with a status and header fields. -/
def framing (status : Nat) (fs : List (String × String)) : Framing :=
  if status = 204 ∨ status = 304 then .absent
  else if (fs.lookup "transfer-encoding").any fun value => value.toLower.endsWith "chunked" then
    .chunks
  else
    match (fs.lookup "content-length").map String.toList with
    | some ds => if !ds.isEmpty && ds.all isDigit then .length (ofDigits ds) else .connection
    | none => .connection

/-- The size of a chunk, which hexadecimal digits give; what follows them does not count. -/
def chunkSize? (line : List Char) : Option Nat :=
  match line.takeWhile fun c => (Text.Percent.hexValue? c).isSome with
  | [] => none
  | ds => ds.foldlM (fun n d => (Text.Percent.hexValue? d).map (16 * n + ·)) 0

/-- The bytes of a body in chunks, once the last chunk has come, which is empty. -/
def unchunk? (bs : List UInt8) : Option (List UInt8) :=
  match h : line? bs with
  | none => none
  | some (line, rest) =>
    have := length_lt_of_line? h
    match chunkSize? (lineText line) with
    | none => none
    | some 0 => some []
    | some (n + 1) =>
      match h' : line? (rest.drop (n + 1)) with
      | some ([], after) =>
        have := length_lt_of_line? h'
        (unchunk? after).map (rest.take (n + 1) ++ ·)
      | _ => none
termination_by bs.length
decreasing_by simp only [List.length_drop] at this; omega

/-- The bytes of a body, once all of them have come. -/
def body? (closed : Bool) (bs : List UInt8) : Framing → Option (List UInt8)
  | .absent => some []
  | .chunks => unchunk? bs
  | .length count => if count ≤ bs.length then some (bs.take count) else none
  | .connection => if closed then some bs else none

/-- The text of a body.  A mark of the byte order in front of it does not count. -/
def bodyText (bs : List UInt8) : String :=
  match Text.Lossy.decode bs with
  | '\ufeff' :: cs => String.ofList cs
  | cs => String.ofList cs

/-! ### Answers -/

/-- What has come of an answer. -/
inductive Arrival where
  /-- Not all of its head. -/
  | awaited
  /-- Its head, and not all of its body. -/
  | begun
  | complete (response : Response)
  /-- Something that is no answer. -/
  | malformed

/-- The status in the first line of an answer. -/
def statusOf? (line : List Char) : Option Nat :=
  let ds := ((line.dropWhile (· ≠ ' ')).drop 1).takeWhile isDigit
  if line.take 7 = "HTTP/1.".toList ∧ ds.length = 3 then some (ofDigits ds) else none

/-- What has come of an answer, by the bytes of a connection, which may be closed.  An answer with
a status below 200 only announces the one after it. -/
def Arrival.ofBytes (closed : Bool) (bs : List UInt8) : Arrival :=
  match h : line? bs with
  | none => .awaited
  | some (line, rest) =>
    have := length_lt_of_line? h
    match statusOf? (lineText line), h' : fields? rest with
    | none, _ => .malformed
    | some _, none => .awaited
    | some status, some (fs, rest') =>
      have := length_lt_of_fields? h'
      if status < 200 then ofBytes closed rest'
      else
        match body? closed rest' (framing status fs) with
        | some body => .complete { status, body := bodyText body }
        | none => .begun
termination_by bs.length

/-- The outcome of a request, once it is known. -/
def Arrival.outcome? (closed : Bool) : Arrival → Option (Except Failure Response)
  | complete response => some (.ok response)
  | malformed => some (.error (.broken "no answer came"))
  | awaited => if closed then some (.error (.broken "the connection was closed")) else none
  | begun => if closed then some (.error (.unreadable "the connection was closed")) else none

/-- The outcome when there is no more time. -/
def Arrival.late : Arrival → Failure
  | awaited | malformed => .timeout "no answer came in time"
  | _ => .unreadable "the answer did not end in time"

/-- When a connection is closed, the outcome is known. -/
theorem Arrival.isSome_outcome?_true (a : Arrival) : (a.outcome? true).isSome := by
  cases a <;> rfl

end ShopSync.Http
