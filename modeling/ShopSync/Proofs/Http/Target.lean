import Mathlib.Data.List.TakeWhile
import Mathlib.Tactic
import ShopSync.Proofs.Text.Percent
import ShopSync.Text.Truncate

/-!
The target of an address, as a server reads it.

Below a root an address has a path and, after a question mark, parameters.  The path is divided by
slashes and the parameters by ampersands, and each part is decoded on its own after it was cut out.
An encoded segment holds none of the dividing characters, so what is read is what was encoded
(`Target.read?_append`).
-/

namespace ShopSync

/-! ### Parts -/

namespace Text

theorem splitOn_of_notMem {separator : Char} {cs : List Char} (h : separator ∉ cs) :
    splitOn separator cs = [cs] := by
  induction cs with
  | nil => rfl
  | cons c cs ih =>
    rw [List.mem_cons, not_or] at h
    rw [splitOn, if_neg (Ne.symm h.1), ih h.2]

theorem splitOn_append {separator : Char} {part : List Char} (rest : List Char)
    (h : separator ∉ part) :
    splitOn separator (part ++ separator :: rest) = part :: splitOn separator rest := by
  induction part with
  | nil => rw [List.nil_append, splitOn, if_pos rfl]
  | cons c part ih =>
    rw [List.mem_cons, not_or] at h
    rw [List.cons_append, splitOn, if_neg (Ne.symm h.1), ih h.2]

/-- Parts that are joined by separators are found again. -/
theorem splitOn_flatMap {separator : Char} (part : List Char) (parts : List (List Char))
    (hpart : separator ∉ part) (hparts : ∀ p ∈ parts, separator ∉ p) :
    splitOn separator (part ++ parts.flatMap (separator :: ·)) = part :: parts := by
  induction parts generalizing part with
  | nil =>
    rw [List.flatMap_nil, List.append_nil]
    exact splitOn_of_notMem hpart
  | cons next parts ih =>
    rw [List.forall_mem_cons] at hparts
    rw [List.flatMap_cons, List.cons_append, splitOn_append _ hpart, ih next hparts.1 hparts.2]

theorem takeWhile_ne {separator : Char} {part : List Char} (rest : List Char)
    (h : separator ∉ part) :
    (part ++ separator :: rest).takeWhile (· ≠ separator) = part := by
  rw [List.takeWhile_append_of_pos fun c hc => decide_eq_true (ne_of_mem_of_not_mem hc h)]
  simp

theorem dropWhile_ne {separator : Char} {part : List Char} (rest : List Char)
    (h : separator ∉ part) :
    (part ++ separator :: rest).dropWhile (· ≠ separator) = separator :: rest := by
  rw [List.dropWhile_append_of_pos fun c hc => decide_eq_true (ne_of_mem_of_not_mem hc h)]
  simp

end Text

namespace Http

open Text (splitOn)
open Text.Percent (decode? decode?_encode encode notMem_encode)

/-! ### Targets -/

/-- What an address asks for. -/
structure Target where
  /-- The segments of the path. -/
  path : List String
  parameters : List (String × String)
deriving DecidableEq

/-- A parameter: a name and, after an equals sign, a value. -/
def parameter? (part : List Char) : Option (String × String) := do
  let name ← decode? (part.takeWhile (· ≠ '='))
  let value ← decode? ((part.dropWhile (· ≠ '=')).drop 1)
  pure (name, value)

/-- The target that the part of an address below a root stands for. -/
def Target.read? (rest : List Char) : Option Target := do
  let path ← (splitOn '/' (rest.takeWhile (· ≠ '?'))).mapM decode?
  match rest.dropWhile (· ≠ '?') with
  | [] => pure { path, parameters := [] }
  | _ :: query => pure { path, parameters := ← (splitOn '&' query).mapM parameter? }

/-- The target of an address below a root. -/
def Target.below? (root url : String) : Option Target :=
  (root.toList.isPrefixOf? url.toList).bind Target.read?

/-! ### Reading -/

theorem Target.below?_append (root rest : String) :
    Target.below? root (root ++ rest) = Target.read? rest.toList := by
  have hprefix : root.toList.isPrefixOf? (root ++ rest).toList = some rest.toList := by
    rw [List.isPrefixOf?_eq_some_iff_append_eq, String.toList_append]
  rw [Target.below?, hprefix, Option.bind_some]

/-- What a path is written with: each segment is encoded and has a slash in front of it. -/
def segmentsText (segments : List String) : List Char :=
  (segments.map fun s => (encode s).toList).flatMap ('/' :: ·)

/-- What a parameter is written with: name and value are encoded, with an equals sign between. -/
def parameterText (parameter : String × String) : List Char :=
  (encode parameter.1).toList ++ '=' :: (encode parameter.2).toList

/-- What parameters are written with, a question mark in front and ampersands between them. -/
def queryText : List (String × String) → List Char
  | [] => []
  | first :: rest =>
    '?' :: (parameterText first ++ (rest.map parameterText).flatMap ('&' :: ·))

theorem parameter?_parameterText (parameter : String × String) :
    parameter? (parameterText parameter) = some parameter := by
  have hequals : '=' ∉ (encode parameter.1).toList := notMem_encode (by decide) _
  rw [parameter?, parameterText, Text.takeWhile_ne _ hequals, Text.dropWhile_ne _ hequals,
    decode?_encode, List.drop_succ_cons, List.drop_zero, decode?_encode]
  rfl

theorem notMem_parameterText (parameter : String × String) : '&' ∉ parameterText parameter := by
  have hparts (s : String) : '&' ∉ (encode s).toList := notMem_encode (by decide) s
  simp [parameterText, hparts]

theorem notMem_segmentsText (segments : List String) : '?' ∉ segmentsText segments := by
  have hparts (s : String) : '?' ∉ (encode s).toList := notMem_encode (by decide) s
  simp [segmentsText, hparts]

theorem mapM_eq_some_of_map {α β : Type} {f : α → β} {g : β → Option α}
    (h : ∀ a, g (f a) = some a) (as : List α) : (as.map f).mapM g = some as := by
  induction as with
  | nil => rfl
  | cons a as ih =>
    rw [List.map_cons, List.mapM_cons, h, ih]
    rfl

/-- **What was written is read**: the segments, behind an empty first one, and the parameters. -/
theorem Target.read?_append (segments : List String) (parameters : List (String × String)) :
    Target.read? (segmentsText segments ++ queryText parameters) =
      some { path := "" :: segments, parameters } := by
  have hpath : (splitOn '/' (segmentsText segments)).mapM decode? = some ("" :: segments) := by
    have hslash : ∀ part ∈ segments.map fun s => (encode s).toList, '/' ∉ part := by
      rw [List.forall_mem_map]
      exact fun s _ => notMem_encode (by decide) s
    have hsplit := Text.splitOn_flatMap [] _ List.not_mem_nil hslash
    rw [List.nil_append] at hsplit
    rw [segmentsText, hsplit, List.mapM_cons, mapM_eq_some_of_map decode?_encode]
    rfl
  have hmark := notMem_segmentsText segments
  cases parameters with
  | nil =>
    have hall : ∀ c ∈ segmentsText segments, decide (c ≠ '?') = true := fun c hc =>
      decide_eq_true (ne_of_mem_of_not_mem hc hmark)
    have htake := List.takeWhile_eq_self_iff.2 hall
    have hdrop := List.dropWhile_eq_nil_iff.2 hall
    rw [Target.read?, queryText, List.append_nil, htake, hdrop, hpath]
    rfl
  | cons first rest =>
    have hquery : (splitOn '&' (parameterText first ++
        (rest.map parameterText).flatMap ('&' :: ·))).mapM parameter? = some (first :: rest) := by
      have hands : ∀ part ∈ rest.map parameterText, '&' ∉ part := by
        rw [List.forall_mem_map]
        exact fun parameter _ => notMem_parameterText parameter
      rw [Text.splitOn_flatMap _ _ (notMem_parameterText first) hands, ← List.map_cons]
      exact mapM_eq_some_of_map parameter?_parameterText (first :: rest)
    rw [Target.read?, queryText, Text.takeWhile_ne _ hmark, Text.dropWhile_ne _ hmark, hpath]
    simp only [Option.bind_eq_bind, Option.bind_some, hquery, Option.pure_def]

end Http

end ShopSync
