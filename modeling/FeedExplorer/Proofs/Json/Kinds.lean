import FeedExplorer.Proofs.Json.Record
import Mathlib.Data.List.Forall2

/-!
# Kinds of values

What the plain readers take and what they make of it, said of the values themselves, and the two
ways in which a field of a record can be asked for: it has to be given, or it may be left out.
-/

namespace FeedExplorer.Json

/-! ## Kinds -/

def IsString (v : Json) : Prop :=
  ∃ s, v = .str s

/-- An integer from 0 to `2 ^ 64 - 1`. -/
def IsWord (v : Json) : Prop :=
  ∃ n : Nat, v = .int n ∧ n < UInt64.size

def IsNumber (v : Json) : Prop :=
  (∃ n, v = .int n) ∨ ∃ x, v = .real x

def NullOr (kind : Json → Prop) (v : Json) : Prop :=
  v = .null ∨ kind v

def IsListOf (kind : Json → Prop) (v : Json) : Prop :=
  ∃ items, v = .arr items ∧ ∀ item ∈ items, kind item

def TellsString (v : Json) (s : String) : Prop :=
  v = .str s

def TellsWord (v : Json) (w : UInt64) : Prop :=
  v = .int w.toNat

/-- The value is the double, or an integer that the double is nearest to. -/
def TellsReal (v : Json) (x : Binary64) : Prop :=
  v = .real x ∨ ∃ n : Int, v = .int n ∧ x = Binary64.ofNat (n < 0) n.natAbs

/-- The value is null and nothing is meant, or what is meant is told by the value. -/
def NullOrTells {α : Type} (tells : Json → α → Prop) (v : Json) : Option α → Prop
  | none => v = .null
  | some a => tells v a

/-- The value is a list that tells of as many things, one by one in the same order. -/
def ListTells {α : Type} (tells : Json → α → Prop) (v : Json) (as : List α) : Prop :=
  ∃ items, v = .arr items ∧ List.Forall₂ tells items as

/-! ## What is asked of a field, of all that is given for it -/

section asked

variable {α : Type}

/-- Given once, with a value of the kind. -/
def Given (kind : Json → Prop) (values : List Json) : Prop :=
  ∃ v, values = [v] ∧ kind v

/-- Left out, or given once with a value of the kind. -/
def Omissible (kind : Json → Prop) (values : List Json) : Prop :=
  values = [] ∨ Given kind values

/-- Given once, with a value that tells what is read. -/
def GivenAs (tells : Json → α → Prop) (values : List Json) (a : α) : Prop :=
  ∃ v, values = [v] ∧ tells v a

/-- Left out, and what is read is the default, or given once with a value that tells it. -/
def OmissibleAs (tells : Json → α → Prop) (default : α) (values : List Json) (a : α) : Prop :=
  (values = [] ∧ a = default) ∨ GivenAs tells values a

end asked

/-! ## Kinds and what they tell -/

section covers

variable {α : Type} {kind : Json → Prop} {tells : Json → α → Prop}

/-- Just the values of the kind tell something. -/
def Covers (kind : Json → Prop) (tells : Json → α → Prop) : Prop :=
  ∀ v, (∃ a, tells v a) ↔ kind v

theorem covers_string : Covers IsString TellsString := fun _ => Iff.rfl

theorem covers_word : Covers IsWord TellsWord := by
  intro v
  constructor
  · rintro ⟨w, rfl⟩
    exact ⟨w.toNat, rfl, w.toNat_lt⟩
  · rintro ⟨n, rfl, hn⟩
    exact ⟨UInt64.ofNat n, by rw [TellsWord, UInt64.toNat_ofNat_of_lt' hn]⟩

theorem covers_real : Covers IsNumber TellsReal := by
  intro v
  constructor
  · rintro ⟨x, hx | ⟨n, hn, -⟩⟩
    · exact .inr ⟨x, hx⟩
    · exact .inl ⟨n, hn⟩
  · rintro (⟨n, hn⟩ | ⟨x, hx⟩)
    · exact ⟨_, .inr ⟨n, hn, rfl⟩⟩
    · exact ⟨x, .inl hx⟩

theorem Covers.nullOr (h : Covers kind tells) : Covers (NullOr kind) (NullOrTells tells) := by
  intro v
  rw [NullOr, ← h]
  constructor
  · rintro ⟨_ | a, ho⟩
    · exact .inl ho
    · exact .inr ⟨a, ho⟩
  · rintro (hv | ⟨a, ha⟩)
    · exact ⟨none, hv⟩
    · exact ⟨some a, ha⟩

theorem Covers.items (h : Covers kind tells) {items : List Json} :
    (∃ as, List.Forall₂ tells items as) ↔ ∀ item ∈ items, kind item := by
  induction items with
  | nil => simp
  | cons item items ih =>
    rw [List.forall_mem_cons, ← ih, ← h]
    constructor
    · rintro ⟨as, _ | ⟨ha, has⟩⟩
      exact ⟨⟨_, ha⟩, _, has⟩
    · rintro ⟨⟨a, ha⟩, as, has⟩
      exact ⟨a :: as, .cons ha has⟩

theorem Covers.listOf (h : Covers kind tells) : Covers (IsListOf kind) (ListTells tells) := by
  intro v
  simp only [ListTells, IsListOf, ← h.items]
  exact ⟨fun ⟨as, items, hv, has⟩ => ⟨items, hv, as, has⟩,
    fun ⟨items, hv, as, has⟩ => ⟨as, items, hv, has⟩⟩

theorem Covers.given (h : Covers kind tells) {values : List Json} :
    (∃ a, GivenAs tells values a) ↔ Given kind values := by
  simp only [GivenAs, Given, ← h _]
  exact ⟨fun ⟨a, v, hv, ha⟩ => ⟨v, hv, a, ha⟩, fun ⟨v, hv, a, ha⟩ => ⟨a, v, hv, ha⟩⟩

theorem Covers.omissible (h : Covers kind tells) {values : List Json} {default : α} :
    (∃ a, OmissibleAs tells default values a) ↔ Omissible kind values := by
  rw [Omissible, ← h.given]
  constructor
  · rintro ⟨a, ⟨hv, -⟩ | ha⟩
    · exact .inl hv
    · exact .inr ⟨a, ha⟩
  · rintro (hv | ⟨a, ha⟩)
    · exact ⟨default, .inl ⟨hv, rfl⟩⟩
    · exact ⟨a, .inr ha⟩

end covers

/-! ## Readers and what they read -/

section reads

variable {α : Type} {read : Json → Except Mismatch α} {tells : Json → α → Prop}

/-- The reader takes just the values that tell something, and reads what they tell. -/
def Reads (read : Json → Except Mismatch α) (tells : Json → α → Prop) : Prop :=
  ∀ v a, read v = .ok a ↔ tells v a

theorem reads_asString : Reads asString TellsString := by
  intro v s
  cases v <;> simp [asString, TellsString]

theorem reads_asWord : Reads asWord TellsWord := by
  intro v w
  cases v with
  | int n =>
    simp only [asWord, TellsWord]
    split
    · rename_i h
      rw [Except.ok.injEq, Json.int.injEq]
      constructor
      · rintro rfl
        rw [UInt64.toNat_ofNat_of_lt' (by change n.toNat < Number.wordLimit; omega)]
        omega
      · rintro rfl
        simp
    · rename_i h
      simp only [Json.int.injEq, false_iff, reduceCtorEq]
      rintro rfl
      exact h ⟨by omega, by exact_mod_cast w.toNat_lt⟩
  | _ => simp [asWord, TellsWord]

theorem reads_asReal : Reads asReal TellsReal := by
  intro v x
  cases v <;> simp [asReal, TellsReal, eq_comm]

theorem asOptional_of_ne_null (read : Json → Except Mismatch α) {v : Json} (hv : v ≠ .null) :
    asOptional read v = (read v).map some := by
  cases v <;> first | rfl | exact absurd rfl hv

theorem Reads.asOptional (h : Reads read tells) (hnull : ∀ a, ¬ tells .null a) :
    Reads (asOptional read) (NullOrTells tells) := by
  intro v o
  by_cases hv : v = .null
  · subst hv
    cases o <;> simp [Json.asOptional, NullOrTells, hnull]
  · rw [asOptional_of_ne_null read hv]
    cases o with
    | none => cases read v <;> simp [Except.map, NullOrTells, hv]
    | some a => cases hr : read v <;> simp [Except.map, NullOrTells, ← h v, hr]

theorem Reads.mapM (h : Reads read tells) {items : List Json} {as : List α} :
    items.mapM read = .ok as ↔ List.Forall₂ tells items as := by
  induction items generalizing as with
  | nil => cases as <;> simp [pure, Except.pure]
  | cons item items ih =>
    rw [List.mapM_cons]
    cases hitem : read item with
    | error m => cases as <;> simp [bind, Except.bind, ← h item, hitem]
    | ok a =>
      cases hitems : items.mapM read with
      | error m => cases as <;> simp [bind, Except.bind, ← ih, ← h item, hitem, hitems]
      | ok rest =>
        cases as <;> simp [bind, Except.bind, pure, Except.pure, ← ih, ← h item, hitem, hitems]

theorem Reads.asList (h : Reads read tells) : Reads (asList read) (ListTells tells) := by
  intro v as
  cases v <;> simp [Json.asList, ListTells, h.mapM]

end reads

/-! ## Fields that read a value and set one part of the record -/

section fields

variable {α β γ : Type}

/-- One part of a record. -/
structure Part (α β : Type) where
  get : α → β
  set : β → α → α
  set_get : ∀ record, set (get record) record = record

/-- The field whose value is read as a part of the record. -/
def reading (name : String) (spellings : List String) (required : Bool)
    (read : Json → Except Mismatch β) (part : Part α β) : Field α where
  name
  spellings
  required
  put v record := (read v).map (part.set · record)

/-- Reads what has to be given, once. -/
def one (read : Json → Except Mismatch β) : List Json → Option β
  | [v] => (read v).toOption
  | _ => none

/-- Reads what may be left out. -/
def oneOr (default : β) (read : Json → Except Mismatch β) : List Json → Option β
  | [] => some default
  | values => one read values

theorem settle_reading (name : String) (spellings : List String) (required : Bool)
    (read : Json → Except Mismatch β) (part : Part α β) (values : List Json) (record : α) :
    (reading name spellings required read part).settle [] values record =
      (if required then one read values else oneOr (part.get record) read values).map
        (part.set · record) := by
  rcases values with _ | ⟨v, _ | ⟨w, values⟩⟩
  · cases required <;> simp [Field.settle, reading, one, oneOr, part.set_get]
  · cases required <;> simp [Field.settle, reading, one, oneOr, toOption_map]
  · cases required <;> simp [Field.settle, one, oneOr]

theorem apart_reading {name name' : String} {spellings spellings' : List String}
    {required required' : Bool} {read : Json → Except Mismatch β} {part : Part α β}
    {read' : Json → Except Mismatch γ} {part' : Part α γ}
    (hkeys : ∀ key ∈ name :: spellings, key ∉ name' :: spellings')
    (hparts : ∀ b c record, part'.set c (part.set b record) = part.set b (part'.set c record)) :
    (reading name spellings required read part).Apart
      (reading name' spellings' required' read' part') where
  keys := hkeys
  puts v w record := by
    simp only [reading, toOption_map]
    cases (read v).toOption <;> cases (read' w).toOption <;> simp [hparts]

section one

variable {read : Json → Except Mismatch β} {tells : Json → β → Prop} {default : β}
  {values : List Json} {b : β}

theorem Reads.one (h : Reads read tells) :
    one read values = some b ↔ GivenAs tells values b := by
  rcases values with _ | ⟨v, _ | ⟨w, values⟩⟩ <;>
    simp [Json.one, GivenAs, toOption_eq_some_iff, h _ _]

theorem Reads.oneOr (h : Reads read tells) :
    oneOr default read values = some b ↔ OmissibleAs tells default values b := by
  rcases values with _ | ⟨v, values⟩
  · simp [Json.oneOr, OmissibleAs, GivenAs, eq_comm]
  · simp [Json.oneOr, OmissibleAs, h.one]

/-- A field that is noted as given, or stays unnoted. -/
theorem Reads.oneOr_some (h : Reads read tells) :
    Json.oneOr none (fun v => (read v).map some) values = some (some b) ↔
      GivenAs tells values b := by
  rcases values with _ | ⟨v, _ | ⟨w, values⟩⟩
  · simp [Json.oneOr, GivenAs]
  · simp [Json.oneOr, Json.one, GivenAs, toOption_map, toOption_eq_some_iff, h _ _]
  · simp [Json.oneOr, Json.one, GivenAs]

/-- A field that stays unnoted is left out. -/
theorem oneOr_eq_none_iff {read : Json → Except Mismatch β} :
    Json.oneOr none (fun v => (read v).map some) values = some none ↔ values = [] := by
  rcases values with _ | ⟨v, _ | ⟨w, values⟩⟩
  · simp [Json.oneOr]
  · simp [Json.oneOr, Json.one, toOption_map]
  · simp [Json.oneOr, Json.one]

theorem Reads.oneOr_getD (h : Reads read tells) :
    (Json.oneOr none (fun v => (read v).map some) values).map (·.getD default) = some b ↔
      OmissibleAs tells default values b := by
  rcases values with _ | ⟨v, _ | ⟨w, values⟩⟩
  · simp [Json.oneOr, OmissibleAs, GivenAs, eq_comm]
  · simp [Json.oneOr, Json.one, OmissibleAs, GivenAs, toOption_map, toOption_eq_some_iff, h _ _]
  · simp [Json.oneOr, Json.one, OmissibleAs, GivenAs]

/-- A field that can hold anything is given once at most. -/
theorem isSome_oneOr_ok {c : β} :
    (Json.oneOr default (fun _ => .ok c) values).isSome = true ↔ values.length ≤ 1 := by
  rcases values with _ | ⟨v, _ | ⟨w, values⟩⟩ <;> simp [Json.oneOr, Json.one]

end one

end fields

end FeedExplorer.Json
