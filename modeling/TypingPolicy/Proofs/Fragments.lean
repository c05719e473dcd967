import TypingPolicy.Proofs.Rules
import TypingPolicy.Proofs.Validation

/-!
# Fragments on a whitelist

A whitelist is a list of texts, but what it decides is a matter of which names it can tell apart.  An
entry that holds another one adds nothing, and order and repetition do not count:

* `exempts_iff_append`: a name is exempt if it can be taken apart so that an entry stands in the middle;
* `exempts_listing_iff`: two lists exempt the same names just if each entry of either of them has an
  entry of the other in it (`Covers`);
* `Walk.unitOf_listing`: and then no walk can tell them apart.
-/

namespace TypingPolicy

/-! ## 1. Names with a fragment in them -/

/-- A fragment stands in a name just if the name is made of something, the fragment, and something. -/
theorem Text.infix_iff_append {fragment name : String} :
    fragment.toList <:+: name.toList ↔ ∃ a b, name = a ++ fragment ++ b := by
  constructor
  · rintro ⟨a, b, h⟩
    refine ⟨String.ofList a, String.ofList b, String.toList_injective ?_⟩
    simp only [String.toList_append, String.toList_ofList, h]
  · rintro ⟨a, b, rfl⟩
    refine ⟨a.toList, b.toList, ?_⟩
    simp only [String.toList_append]

namespace Policy

theorem exempts_iff_append {p : Policy} {name : String} :
    p.exempts name = true ↔ ∃ e ∈ p.whitelist, ∃ a b, name = a ++ e ++ b := by
  simp only [exempts_iff, Text.infix_iff_append]

/-! ## 2. Other lists that decide the same -/

/-- The policy with other entries on its whitelist. -/
def listing (p : Policy) (entries : List String) : Policy := { p with whitelist := entries }

/-- Each of the entries has one of the fragments in it. -/
def Covers (fragments entries : List String) : Prop :=
  ∀ e ∈ entries, ∃ f ∈ fragments, f.toList <:+: e.toList

theorem covers_of_subset {fragments entries : List String} (h : entries ⊆ fragments) :
    Covers fragments entries :=
  fun e he => ⟨e, h he, List.infix_rfl⟩

theorem Covers.exempts {fragments entries : List String} (h : Covers fragments entries) {p : Policy}
    {name : String} (hname : (p.listing entries).exempts name = true) :
    (p.listing fragments).exempts name = true := by
  obtain ⟨e, he, hin⟩ := exempts_iff.mp hname
  obtain ⟨f, hf, hfe⟩ := h e he
  exact exempts_iff.mpr ⟨f, hf, hfe.trans hin⟩

/-- The entries themselves are the names that tell two lists apart, if any do. -/
theorem covers_of_exempts {fragments entries : List String} {p : Policy}
    (h : ∀ name, (p.listing entries).exempts name = true → (p.listing fragments).exempts name = true) :
    Covers fragments entries := by
  intro e he
  exact exempts_iff.mp (h e (exempts_iff.mpr ⟨e, he, List.infix_rfl⟩))

/-- **Two lists exempt the same names** just if each of them covers the other. -/
theorem exempts_listing_iff {fragments entries : List String} {p : Policy} :
    (∀ name, (p.listing entries).exempts name = (p.listing fragments).exempts name) ↔
      Covers fragments entries ∧ Covers entries fragments := by
  constructor
  · intro h
    exact ⟨covers_of_exempts fun name hname => (h name).symm.trans hname,
      covers_of_exempts fun name hname => (h name).trans hname⟩
  · rintro ⟨hcovers, hcovers'⟩ name
    rw [Bool.eq_iff_iff]
    exact ⟨hcovers.exempts, hcovers'.exempts⟩

end Policy

/-! ## 3. Walks -/

namespace Walk

variable {ε σ : Type} {p : Policy} {entries : List String}

theorem treat_listing (h : ∀ name, (p.listing entries).exempts name = p.exempts name)
    (outlet : Outlet ε σ) (c : Nat) (k : ClassDecl) (tally : Tally) (s : Walk σ) :
    s.treat (p.listing entries) outlet c k tally = s.treat p outlet c k tally := by
  have henforce (k : ClassDecl) (s : Walk σ) :
      s.enforce (p.listing entries) outlet c k = s.enforce p outlet c k := by
    unfold enforce
    rw [h]
    rfl
  unfold treat
  simp only [henforce]
  rfl

theorem classes_listing (h : ∀ name, (p.listing entries).exempts name = p.exempts name)
    (outlet : Outlet ε σ) (cs : List Nat) (tally : Tally) (s : Walk σ) :
    classes (p.listing entries) outlet cs tally s = classes p outlet cs tally s := by
  have hreason (k : ClassDecl) : (p.listing entries).skipReason k = p.skipReason k := by
    unfold Policy.skipReason
    rw [h]
    rfl
  induction cs generalizing tally s with
  | nil => rfl
  | cons c rest ih =>
    simp only [classes, hreason, treat_listing h, ih]

/-- **A walk asks which names are exempt**, and nothing else about the whitelist. -/
theorem unitOf_listing (h : ∀ name, (p.listing entries).exempts name = p.exempts name)
    (outlet : Outlet ε σ) (u : SourceUnit) (s : Walk σ) :
    s.unitOf (p.listing entries) outlet u = s.unitOf p outlet u := by
  simp only [unitOf, classes_listing h]

end Walk

/-! ## 4. What counts on a whitelist -/

namespace Policy

/-- The policies exempt the same names, and every walk does the same under both: it passes over the
same classes, and ends with the same result in the same state. -/
structure Agrees (p q : Policy) : Prop where
  exempts : ∀ name, p.exempts name = q.exempts name
  walks : ∀ (ε σ : Type) (outlet : Outlet ε σ) (u : SourceUnit) (s : Walk σ),
    s.unitOf p outlet u = s.unitOf q outlet u

theorem agrees_of_covers {p : Policy} {entries : List String} (h : Covers p.whitelist entries)
    (h' : Covers entries p.whitelist) : (p.listing entries).Agrees p := by
  have hsame : ∀ name, (p.listing entries).exempts name = p.exempts name :=
    exempts_listing_iff.mpr ⟨h, h'⟩
  exact ⟨hsame, fun _ _ outlet u s => Walk.unitOf_listing hsame outlet u s⟩

/-- **Only which entries there are counts**, not how often and in which order they stand. -/
theorem agrees_of_same_entries {p : Policy} {entries : List String}
    (h : ∀ e, e ∈ entries ↔ e ∈ p.whitelist) : (p.listing entries).Agrees p :=
  agrees_of_covers (covers_of_subset fun e he => (h e).mp he)
    (covers_of_subset fun e he => (h e).mpr he)

theorem whitelist_ofRaw {v : Value} {t : Table} {s : Settings} (ht : v.toTable? = some t)
    (hs : Settings.ofTable t = .ok s) :
    (ofRaw (some v)).whitelist = Text.newNames [] (s.dynamicCompileWhitelist.getD []) := by
  simp only [ofRaw, ofValue?, ht, Option.bind_some, hs]
  rfl

/-- **What a whitelist decides.**  A name is exempt if some entry stands in it, with anything before
and behind it.  So a list with the same entries, in any order and any number, decides the same; in
particular it makes no difference that a repeated entry of the settings is dropped.  And an entry that
has another entry of the list in it may be added, wherever and how often it may be, without any name
being decided otherwise or any walk taking another course. -/
theorem exempts_by_fragments (p : Policy) :
    (∀ name, p.exempts name = true ↔ ∃ e ∈ p.whitelist, ∃ a b, name = a ++ e ++ b) ∧
    (∀ entries, (∀ e, e ∈ entries ↔ e ∈ p.whitelist) → (p.listing entries).Agrees p) ∧
    (∀ v t s, v.toTable? = some t → Settings.ofTable t = .ok s →
      ((ofRaw (some v)).listing (s.dynamicCompileWhitelist.getD [])).Agrees (ofRaw (some v))) ∧
    (∀ f ∈ p.whitelist, ∀ a b entries, (∀ e, e ∈ entries ↔ e = a ++ f ++ b ∨ e ∈ p.whitelist) →
      (p.listing entries).Agrees p) := by
  refine ⟨fun name => exempts_iff_append, fun entries => agrees_of_same_entries, ?_, ?_⟩
  · intro v t s ht hs
    apply agrees_of_same_entries
    intro e
    simp only [whitelist_ofRaw ht hs, Text.mem_newNames, List.not_mem_nil, not_false_eq_true, and_true]
  · intro f hf a b entries hentries
    apply agrees_of_covers
    · intro e he
      rcases (hentries e).mp he with rfl | hold
      · exact ⟨f, hf, Text.infix_iff_append.mpr ⟨a, b, rfl⟩⟩
      · exact ⟨e, hold, List.infix_rfl⟩
    · exact covers_of_subset fun e he => (hentries e).mpr (Or.inr he)

/-- The first entry is found behind a part of itself; the new one stands twice, once in front of the
entry that it holds. -/
theorem exempts_by_fragments_overlapping :
    (∃ e ∈ ["aab", "acme"], ∃ a b, "aaab" = a ++ e ++ b) ∧
    (listing { whitelist := ["aab", "acme"] } ["com.acme.Foo", "acme", "aab", "com.acme.Foo"]).Agrees
      { whitelist := ["aab", "acme"] } := by
  obtain ⟨hexempts, -, -, hadded⟩ := exempts_by_fragments { whitelist := ["aab", "acme"] }
  refine ⟨(hexempts "aaab").mp (by decide), ?_⟩
  apply hadded "acme" (by decide) "com." ".Foo"
  intro e
  have hnew : "com." ++ "acme" ++ ".Foo" = "com.acme.Foo" := rfl
  simp only [hnew, List.mem_cons, List.not_mem_nil, or_false]
  grind

end Policy

end TypingPolicy
