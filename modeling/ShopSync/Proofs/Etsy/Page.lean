import Mathlib.Tactic
import ShopSync.Etsy.Payload
import ShopSync.Http.Client
import ShopSync.Proofs.Json.Record

/-!
Pages of answers.

A text is a page when it is an object, with each key once, whose `count` is a number and whose
`results` are an array of any values.  What is read of it are the objects among these values, in
their order.
-/

namespace ShopSync.Etsy

open Json (Tree Value Decoder depthLimit)
open Json.Decoder (spelled)
open Json.Loose (Members integerOf objectOf)

/-- The text is a page with entries and, where it says so, a count, whatever other members it
has. -/
def Page.Spells (body : String) (count : Option Nat) (entries : List Value) : Prop :=
  ∃ ms : List (String × Tree),
    Tree.parse? body = some (.object (spelled ms)) ∧ (ms.map Prod.fst).Nodup ∧
      (Keyed.get? "count" ms).map (Tree.value? (depthLimit - 1)) =
        count.map (fun n => some (.ofNat n)) ∧
      (Keyed.get? "results" ms).map (Tree.value? (depthLimit - 1)) = some (some (.array entries))

/-- The page that consists of entries and perhaps a count. -/
def Page.written (count : Option Nat) (entries : List Value) : Value :=
  .object (Value.optionalMember "count" .ofNat count ++ [("results", .array entries)])

/-- A written page is a page, when its entries can be written and are not nested too deeply. -/
theorem Page.spells_render {count : Option Nat} {entries : List Value}
    (hcount : ∀ n ∈ count, n < UInt64.size) (hreadable : ∀ v ∈ entries, v.Readable)
    (hfits : ∀ v ∈ entries, v.Fits (depthLimit - 2)) :
    Page.Spells (Page.written count entries).render count entries := by
  have harray : (Value.array entries).Fits (depthLimit - 2 + 1) :=
    (Json.elementsFit_iff (depthLimit - 2) entries).2 hfits
  have hresults := Value.value?_toTree _ _ harray
  have hreadable := (Json.readableElements_iff entries).2 hreadable
  cases count with
  | none =>
    have hpage : (Page.written none entries).Readable := ⟨hreadable, trivial⟩
    refine ⟨[("results", (Value.array entries).toTree)], ?_, List.nodup_singleton _, rfl, ?_⟩
    · rw [Tree.parse?_render hpage]
      rfl
    · exact congrArg some hresults
  | some n =>
    have hpage : (Page.written (some n) entries).Readable :=
      ⟨Json.Number.readsBack_ofNat (hcount n rfl), hreadable, trivial⟩
    refine ⟨[("count", (Value.ofNat n).toTree), ("results", (Value.array entries).toTree)],
      ?_, ?_, rfl, ?_⟩
    · rw [Tree.parse?_render hpage]
      rfl
    · change ["count", "results"].Nodup
      decide
    · exact congrArg some hresults

theorem bind_bind_of_map {o : Option α} {f : α → Option β} {c : Option γ} {g : γ → β}
    (h : o.map f = c.map fun x => some (g x)) (k : β → Option δ) :
    (o.bind f).bind k = c.bind fun x => k (g x) := by
  cases o with
  | none =>
    cases c with
    | none => rfl
    | some x => cases h
  | some a =>
    cases c with
    | none => cases h
    | some x =>
      rw [Option.map_some, Option.map_some, Option.some_inj] at h
      rw [Option.bind_some, h, Option.bind_some, Option.bind_some]

theorem Page.decode?_of_spells (entry : Members → α) {body : String} {count : Option Nat}
    {entries : List Value} (h : Page.Spells body count entries) :
    Decoder.decode? (Page.decoder entry) body =
      some
        { count := count.bind fun n => integerOf (.ofNat n)
          results := (entries.filterMap objectOf).map entry } := by
  obtain ⟨ms, hparse, hkeys, hcount, hresults⟩ := h
  let found := ms.filter fun m => ["count", "results"].contains m.1
  have hfound (key : String) (hkey : ["count", "results"].contains key = true) :
      Keyed.get? key found = Keyed.get? key ms :=
    Keyed.get?_filter hkey ms
  have hvalued : ∀ m ∈ found, (m.2.value? (depthLimit - 1)).isSome := by
    intro m hm
    obtain ⟨hm, hname⟩ := List.mem_filter.1 hm
    have hget := Keyed.get?_of_mem hkeys hm
    simp only [List.contains_eq_mem, List.mem_cons, List.not_mem_nil, or_false,
      decide_eq_true_eq] at hname
    rcases hname with hname | hname
    · rw [← hname, hget, Option.map_some] at hcount
      obtain ⟨n, -, hvalue⟩ := Option.map_eq_some_iff.1 hcount.symm
      rw [← hvalue, Option.isSome_some]
    · rw [← hname, hget, Option.map_some, Option.some_inj] at hresults
      rw [hresults, Option.isSome_some]
  obtain ⟨vs, hvs, hget⟩ := Decoder.Fields.exists_mapM_value hvalued
  have hdecoded : Decoder.decode? (Page.decoder entry) body =
      some { count := Json.Loose.integer vs "count"
             results := (Json.Loose.objects vs "results").map entry } := by
    rw [Page.decoder, Decoder.decode?_record hparse hkeys, Decoder.Fields.values, hvs]
    rfl
  have hinteger : Json.Loose.integer vs "count" = count.bind fun n => integerOf (.ofNat n) := by
    rw [Json.Loose.integer, hget, hfound _ (by decide)]
    exact bind_bind_of_map hcount integerOf
  have hobjects : Json.Loose.objects vs "results" = entries.filterMap objectOf := by
    have hvalue : (Keyed.get? "results" ms).bind (Tree.value? (depthLimit - 1)) =
        some (.array entries) := by
      obtain ⟨t, ht, hvalue⟩ := Option.map_eq_some_iff.1 hresults
      rw [ht, Option.bind_some, hvalue]
    rw [Json.Loose.objects, hget, hfound _ (by decide), hvalue]
    rfl
  rw [hdecoded, hinteger, hobjects]

theorem classify_of_parse? {response : Http.Response} {t : Tree}
    (hstatus : response.status = 200 ∨ response.status = 201)
    (h : Tree.parse? response.body = some t) : response.classify = .ok (some response.body) := by
  have hblank : ¬Text.isBlankText response.body = true := by
    intro hblank
    rw [Tree.parse?_of_isBlankText hblank] at h
    cases h
  rcases hstatus with hstatus | hstatus <;>
    simp [Http.Response.classify, Http.Response.isError, hstatus, hblank]

theorem classify_ok {body : String} {t : Tree} (h : Tree.parse? body = some t) :
    (Http.Response.ok body).classify = .ok (some body) :=
  classify_of_parse? (Or.inl rfl) h

end ShopSync.Etsy
