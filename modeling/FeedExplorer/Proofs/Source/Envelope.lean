import FeedExplorer.Proofs.Json.Embedded
import FeedExplorer.Proofs.Json.Kinds
import FeedExplorer.Proofs.Json.Loop
import FeedExplorer.Proofs.Json.Skipping
import FeedExplorer.Source.Envelope

/-!
# What an envelope tells

An envelope is read while its text is gone through, and what is not needed is skipped. Main
statement: where the text is that of a value, what the envelope holds is told by the members of
that value alone.
-/

namespace FeedExplorer.Source

open Json

namespace Answer

/-- What an answer means: an error, or a result, whose text has a value or not. -/
def meaning : Answer → Except (Int × String) (Option Json)
  | .result raw => .ok (Json.parse (String.ofList raw)).toOption
  | .error code text => .error (code, text)

theorem meaning_eq_error_iff {a : Answer} {code : Int} {text : String} :
    a.meaning = .error (code, text) ↔ a = .error code text := by
  cases a <;> simp [meaning]

theorem meaning_eq_ok_iff {a : Answer} {w : Json} :
    a.meaning = .ok (some w) ↔ ∃ raw, a = .result raw ∧ Json.parse (String.ofList raw) = .ok w := by
  cases a <;> simp [meaning, toOption_eq_some_iff]

end Answer

namespace Envelope

/-! ## What the members tell -/

/-- An integer from `-2 ^ 63` to `2 ^ 63 - 1`. -/
def TellsSigned (v : Json) (n : Int) : Prop :=
  v = .int n ∧ -(Number.signedLimit : Int) ≤ n ∧ n < Number.signedLimit

/-- A call can be known again by nothing, by a name or by a number. -/
def IsId (v : Json) : Prop :=
  v = .null ∨ IsString v ∨ ∃ n : Nat, v = .int n

/-- An error with its code and its words. -/
def TellsRefusal (v : Json) (refusal : Int × String) : Prop :=
  ∃ members, v = .obj members ∧ GivenAs TellsSigned (valuesUnder ["code"] members) refusal.1 ∧
    OmissibleAs TellsString "" (valuesUnder ["message"] members) refusal.2 ∧
    (valuesUnder ["data"] members).length ≤ 1

/-- The answer gives the call a result. -/
def TellsResult (v result : Json) : Prop :=
  ∃ members, v = .obj members ∧ valuesUnder ["result"] members = [result] ∧
    valuesUnder ["error"] members = [] ∧ Omissible IsId (valuesUnder ["id"] members)

/-- The answer refuses the call. -/
def TellsError (v : Json) (code : Int) (text : String) : Prop :=
  ∃ members, v = .obj members ∧ valuesUnder ["result"] members = [] ∧
    GivenAs TellsRefusal (valuesUnder ["error"] members) (code, text) ∧
    Omissible IsId (valuesUnder ["id"] members)

/-- A list of answers. -/
def IsBatch (v : Json) : Prop :=
  ∃ items, v = .arr items ∧
    ∀ item ∈ items, (∃ result, TellsResult item result) ∨ ∃ code text, TellsError item code text

/-! ## Single members -/

section member

variable {depth : Nat} {v : Json} {cs rest : List Char}

theorem reads_asSigned : Reads asSigned TellsSigned := by
  intro v n
  cases v with
  | int m =>
    simp only [asSigned, TellsSigned]
    split
    · next h =>
      constructor
      · rintro ⟨⟩
        exact ⟨rfl, h⟩
      · rintro ⟨⟨⟩, -⟩
        rfl
    · next h =>
      refine iff_of_false nofun ?_
      rintro ⟨⟨⟩, hn⟩
      exact h hn
  | _ => simp [asSigned, TellsSigned]

theorem readCode_toOption (h : Reading depth (.value v) cs rest) :
    (readCode cs).toOption = (asSigned v).toOption.map (·, rest) := by
  cases h with
  | scalar hcs =>
    obtain ⟨c, body, hgap, ⟨hc, hminus, -, hv⟩ | ⟨rfl, s, rfl, -⟩ | ⟨-, -, ⟨rfl, h⟩ | ⟨hc, h⟩⟩⟩ :=
      readValue_cases hcs
    · have hread : ∃ fault, readCode cs = .error fault := by simp [readCode, hgap, hc, hminus]
      obtain ⟨fault, hread⟩ := hread
      rcases hv with rfl | ⟨b, rfl⟩ <;> simp [hread, asSigned]
    · simp [readCode, hgap, asSigned]
    · cases hv : asSigned v <;> simp [readCode, hgap, h, hv]
    · have hminus : c ≠ '-' := by rintro rfl; exact absurd hc (by decide)
      cases hv : asSigned v <;>
        simp [readCode, hgap, hc, hminus, h, hv]
  | list hcs _ => simp [readCode, hcs, asSigned]
  | object hcs _ => simp [readCode, hcs, asSigned]

theorem readText_toOption (expected : String) (h : Reading depth (.value v) cs rest) :
    (readText expected cs).toOption = (asString v).toOption.map (·, rest) := by
  cases h with
  | scalar hcs =>
    ext ⟨s, behind⟩
    rw [toOption_eq_some_iff, readText_eq_ok_iff, hcs]
    cases v <;> simp [asString]
  | list hcs _ => simp [readText, hcs, asString]
  | object hcs _ => simp [readText, hcs, asString]

/-- Takes what a call can be known by. -/
def asId : Json → Except Mismatch Unit
  | .null => .ok ()
  | .str _ => .ok ()
  | .int n => if 0 ≤ n then .ok () else .error (.wrongValue (.int n) "a number")
  | v => .error (.wrongType v "a string, a number, or null")

theorem readId_toOption (h : Reading depth (.value v) cs rest) :
    (readId cs).toOption = (asId v).toOption.map fun _ => rest := by
  cases h with
  | scalar hcs =>
    obtain ⟨hlist, hobject⟩ := head_of_readValue hcs
    obtain ⟨c, body, hgap⟩ : ∃ c body, skipGap cs = c :: body := by
      obtain ⟨c, body, hgap, -⟩ := readValue_cases hcs
      exact ⟨c, body, hgap⟩
    have hread : readValue 1 0 (c :: body) = .ok (v, rest) := by
      rw [← hcs, readValue, readValue, ← hgap, skipGap_skipGap]
    rw [hgap, List.head?_cons, ne_eq, Option.some.injEq] at hlist hobject
    simp only [readId, hgap, List.head?_cons, Option.some.injEq, hlist, hobject, or_self, if_false,
      hread, ok_bind]
    cases v with
    | int n =>
      by_cases hn : 0 ≤ n <;> simp [asId, hn]
    | _ => rfl
  | list hcs _ => simp [readId, hcs, asId]
  | object hcs _ => simp [readId, hcs, asId]

end member

/-! ## The members of an error -/

/-- An error as a record, put together as its members are read. -/
def errorShape : Shape ErrorMembers where
  title := "error"
  blank := { code := none, text := none, data := false }
  fields :=
    [reading "code" [] false (fun v => (asSigned v).map some)
      ⟨(·.code), fun o m => { m with code := o }, fun _ => rfl⟩,
     reading "message" [] false (fun v => (asString v).map some)
      ⟨(·.text), fun o m => { m with text := o }, fun _ => rfl⟩,
     reading "data" [] false (fun _ => .ok true)
      ⟨(·.data), fun b m => { m with data := b }, fun _ => rfl⟩]

theorem lawful_errorShape : errorShape.Lawful := by
  rw [Shape.Lawful, errorShape]
  simp only [List.pairwise_cons, List.forall_mem_cons, List.not_mem_nil, false_imp_iff,
    implies_true, List.Pairwise.nil, and_true]
  and_intros <;> exact apart_reading (by decide) fun _ _ _ => rfl

/-- The names are those of the members that have been met. -/
structure ErrorMembers.Noted (seen : ErrorMembers) (names : List String) : Prop where
  code : "code" ∈ names ↔ seen.code.isSome = true
  text : "message" ∈ names ↔ seen.text.isSome = true
  data : "data" ∈ names ↔ seen.data = true

def errorLoop : Loop ErrorMembers errorShape where
  run := readErrorMembers
  look := id
  noted := ErrorMembers.Noted
  run_end fuel first seen hcs := by
    rw [readErrorMembers, nextMember_eq_none_iff.mpr ⟨_, hcs⟩, ok_bind, hcs]
    rfl
  run_member {depth fuel first seen names key v cs place behind body rest} hdepth hcs hkey hcolon hv
      hseen := by
    simp only [readErrorMembers, hcs, hkey, ok_bind, throw_eq, error_bind]
    split
    · refine inStep_reading (readErrorMembers fuel false) readCode
        (fun read => ({ seen with code := some read.1 }, read.2)) rfl hseen.code hcolon
        ?_ fun _ => ?_
      · rw [readCode_toOption hv, toOption_map, Option.map_map, Option.map_map]
        rfl
      · exact ⟨by simp, by simpa using hseen.text, by simpa using hseen.data⟩
    · refine inStep_reading (readErrorMembers fuel false) (readText "a string")
        (fun read => ({ seen with text := some read.1 }, read.2)) rfl hseen.text hcolon
        ?_ fun _ => ?_
      · rw [readText_toOption "a string" hv, toOption_map, Option.map_map, Option.map_map]
        rfl
      · exact ⟨by simpa using hseen.code, by simp, by simpa using hseen.data⟩
    · obtain ⟨raw, hraw, -⟩ := hv.takeRaw_eq hdepth
      refine inStep_reading (readErrorMembers fuel false) takeRaw
        (fun read => ({ seen with data := true }, read.2)) rfl hseen.data hcolon
        ?_ fun _ => ?_
      · rw [hraw]
        rfl
      · exact ⟨by simpa using hseen.code, by simpa using hseen.text, by simp⟩
    · next hcode htext hdata =>
      have hfield : errorShape.field? key = none := by
        simpa [Shape.field?, errorShape, reading, Field.answers] using ⟨hcode, htext, hdata⟩
      refine .inr ⟨seen, names, ?_, hseen, ?_⟩
      · rw [takeMember, hfield]
      · simp [hcolon, hv.skipValue_eq]

theorem errorShape_ofMembers (members : List (String × Json)) :
    (errorShape.ofMembers members).toOption = do
      let code ← oneOr none (fun v => (asSigned v).map some) (valuesUnder ["code"] members)
      let text ← oneOr none (fun v => (asString v).map some) (valuesUnder ["message"] members)
      let data ← oneOr false (fun _ => .ok true) (valuesUnder ["data"] members)
      return { code, text, data } := by
  rw [Shape.ofMembers_toOption lawful_errorShape, errorShape]
  simp only [gather, settle_reading, Option.bind_map, Function.comp_def, Bool.false_eq_true,
    if_false]
  rfl

/-- An error with its code and its words, which are empty when there are none. -/
def asRefusal : Json → Except Mismatch (Int × String)
  | .obj members => do
    let seen ← errorShape.ofMembers members
    match seen.code with
    | none => .error (.missingField "code")
    | some code => .ok (code, seen.text.getD "")
  | v => .error (.wrongType v "a JSON-RPC 2.0 error object")

theorem asRefusal_toOption_eq_none {v : Json} (h : ∀ members, v ≠ .obj members) :
    (asRefusal v).toOption = none := by
  cases v with
  | obj members => exact absurd rfl (h members)
  | _ => rfl

theorem reads_asRefusal : Reads asRefusal TellsRefusal := by
  rintro v ⟨code, text⟩
  cases v with
  | obj members =>
    have htells : TellsRefusal (.obj members) (code, text) ↔
        oneOr none (fun v => (asSigned v).map some) (valuesUnder ["code"] members) =
            some (some code) ∧
          (oneOr none (fun v => (asString v).map some) (valuesUnder ["message"] members)).map
            (·.getD "") = some text ∧
          (oneOr false (fun _ => .ok true) (valuesUnder ["data"] members)).isSome = true := by
      rw [reads_asSigned.oneOr_some, reads_asString.oneOr_getD, isSome_oneOr_ok]
      simp [TellsRefusal]
    rw [htells, ← toOption_eq_some_iff, asRefusal, toOption_bind, errorShape_ofMembers]
    rcases oneOr none (fun v => (asSigned v).map some) (valuesUnder ["code"] members) with
      _ | _ | code'
    · simp
    · cases oneOr none (fun v => (asString v).map some) (valuesUnder ["message"] members) <;>
        cases oneOr false (fun _ => .ok true) (valuesUnder ["data"] members) <;> simp
    · cases oneOr none (fun v => (asString v).map some) (valuesUnder ["message"] members) <;>
        cases oneOr false (fun _ => .ok true) (valuesUnder ["data"] members) <;> simp
  | _ => simp [asRefusal, TellsRefusal]

theorem readError_toOption {depth : Nat} {v : Json} {cs rest : List Char}
    (h : Reading depth (.value v) cs rest) (hdepth : depth ≤ maxDepth) :
    (readError cs).toOption = (asRefusal v).toOption.map (·, rest) := by
  cases h with
  | scalar hcs =>
    obtain ⟨-, hobject⟩ := head_of_readValue hcs
    obtain ⟨c, body, hgap, -⟩ := readValue_cases hcs
    rw [hgap, List.head?_cons, ne_eq, Option.some.injEq] at hobject
    rw [asRefusal_toOption_eq_none (ne_container_of_readValue hcs).2]
    simp [readError, hgap, hobject]
  | list hcs _ => simp [readError, hcs, asRefusal]
  | @object depth members _ body _ hcs hmembers =>
    have hrun := errorLoop.run_object hmembers (by omega)
      (show ErrorMembers.Noted errorShape.blank [] from
        ⟨by simp [errorShape], by simp [errorShape], by simp [errorShape]⟩) rfl
      (by simp [errorShape, reading])
    have hrun : (readErrorMembers (body.length + 1) true errorShape.blank body).toOption =
        (errorShape.ofMembers members).toOption.map (·, '\x7d' :: rest) := by
      rw [← hrun]
      exact Option.map_id'.symm
    have hblank : errorShape.blank = { code := none, text := none, data := false } := rfl
    rw [hblank] at hrun
    simp only [readError, hcs, asRefusal, toOption_bind, hrun, Option.bind_map]
    cases errorShape.ofMembers members with
    | error m => rfl
    | ok seen =>
      obtain ⟨_ | code, text, data⟩ := seen <;> rfl

/-! ## The members of an answer -/

/-- What the members of an answer have told: a result has a text, and the text a value or not. -/
structure Told where
  result : Option (Option Json)
  error : Option (Int × String)
  id : Bool

def answerShape : Shape Told where
  title := "answer"
  blank := { result := none, error := none, id := false }
  fields :=
    [reading "result" [] false (fun v => .ok (some (some v)))
      ⟨(·.result), fun o t => { t with result := o }, fun _ => rfl⟩,
     reading "error" [] false (fun v => (asRefusal v).map some)
      ⟨(·.error), fun o t => { t with error := o }, fun _ => rfl⟩,
     reading "id" [] false (fun v => (asId v).map fun _ => true)
      ⟨(·.id), fun b t => { t with id := b }, fun _ => rfl⟩]

theorem lawful_answerShape : answerShape.Lawful := by
  rw [Shape.Lawful, answerShape]
  simp only [List.pairwise_cons, List.forall_mem_cons, List.not_mem_nil, false_imp_iff,
    implies_true, List.Pairwise.nil, and_true]
  and_intros <;> exact apart_reading (by decide) fun _ _ _ => rfl

def Members.told (seen : Members) : Told where
  result := seen.result.map fun raw => (Json.parse (String.ofList raw)).toOption
  error := seen.error
  id := seen.id

structure Members.Noted (seen : Members) (names : List String) : Prop where
  result : "result" ∈ names ↔ seen.result.isSome = true
  error : "error" ∈ names ↔ seen.error.isSome = true
  id : "id" ∈ names ↔ seen.id = true

def answerLoop : Loop Members answerShape where
  run := readMembers
  look := Members.told
  noted := Members.Noted
  run_end fuel first seen hcs := by
    rw [readMembers, nextMember_eq_none_iff.mpr ⟨_, hcs⟩, ok_bind, hcs]
    rfl
  run_member {depth fuel first seen names key v cs place behind body rest} hdepth hcs hkey hcolon hv
      hseen := by
    simp only [readMembers, hcs, hkey, ok_bind, throw_eq, error_bind]
    split
    · obtain ⟨raw, hraw, hparse⟩ := hv.takeRaw_eq hdepth
      refine inStep_reading (readMembers fuel false) takeRaw
        (fun read => ({ seen with result := some read.1 }, read.2)) rfl hseen.result hcolon
        ?_ fun _ => ?_
      · simp [hraw, Members.told, hparse]
      · exact ⟨by simp, by simpa using hseen.error, by simpa using hseen.id⟩
    · refine inStep_reading (readMembers fuel false) readError
        (fun read => ({ seen with error := some read.1 }, read.2)) rfl hseen.error hcolon
        ?_ fun _ => ?_
      · rw [readError_toOption hv hdepth, toOption_map, Option.map_map, Option.map_map]
        rfl
      · exact ⟨by simpa using hseen.result, by simp, by simpa using hseen.id⟩
    · refine inStep_reading (readMembers fuel false) readId
        (fun behind => ({ seen with id := true }, behind)) rfl hseen.id hcolon
        ?_ fun _ => ?_
      · rw [readId_toOption hv, toOption_map, Option.map_map, Option.map_map]
        rfl
      · exact ⟨by simpa using hseen.result, by simpa using hseen.error, by simp⟩
    · next hresult herror hid =>
      have hfield : answerShape.field? key = none := by
        simpa [Shape.field?, answerShape, reading, Field.answers] using ⟨hresult, herror, hid⟩
      refine .inr ⟨seen, names, ?_, hseen, ?_⟩
      · rw [takeMember, hfield]
      · simp [hcolon, hv.skipValue_eq]

/-- Exactly one of a result and an error has to be there. -/
def Told.meaning? (told : Told) : Option (Except (Int × String) (Option Json)) :=
  match told.result, told.error with
  | some result, none => some (.ok result)
  | none, some refusal => some (.error refusal)
  | _, _ => none

theorem readAnswer_toOption {depth : Nat} {members : List (String × Json)} {cs rest : List Char}
    (h : Reading depth (.members true members) cs rest) (hdepth : depth ≤ maxDepth) :
    ((readAnswer cs).toOption.map fun read => (Answer.meaning read.1, read.2)) =
      ((answerShape.ofMembers members).toOption.bind Told.meaning?).map (·, rest) := by
  have hrun : ((readMembers (cs.length + 1) true { result := none, error := none, id := false }
      cs).toOption.map fun ran => (ran.1.told, ran.2)) =
        (answerShape.ofMembers members).toOption.map (·, '\x7d' :: rest) :=
    answerLoop.run_object h hdepth ⟨by simp, by simp, by simp⟩ rfl (by simp [answerShape, reading])
  rw [readAnswer, toOption_bind]
  cases hread : readMembers (cs.length + 1) true { result := none, error := none, id := false }
      cs with
  | error fault =>
    rw [hread] at hrun
    rw [Option.map_eq_none_iff.mp hrun.symm]
    rfl
  | ok ran =>
    obtain ⟨⟨result, error, id⟩, behind⟩ := ran
    rw [hread] at hrun
    obtain ⟨told, htold, heq⟩ := Option.map_eq_some_iff.mp hrun.symm
    obtain ⟨rfl, rfl⟩ := Prod.mk.inj heq
    rw [htold]
    rcases result with _ | raw <;> rcases error with _ | ⟨code, text⟩ <;> rfl

theorem answerShape_ofMembers (members : List (String × Json)) :
    (answerShape.ofMembers members).toOption = do
      let result ← oneOr none (fun v => .ok (some (some v))) (valuesUnder ["result"] members)
      let error ← oneOr none (fun v => (asRefusal v).map some) (valuesUnder ["error"] members)
      let id ← oneOr false (fun v => (asId v).map fun _ => true) (valuesUnder ["id"] members)
      return { result, error, id } := by
  rw [Shape.ofMembers_toOption lawful_answerShape, answerShape]
  simp only [gather, settle_reading, Option.bind_map, Function.comp_def, Bool.false_eq_true,
    if_false]
  rfl

theorem asId_eq_ok_iff {v : Json} : asId v = .ok () ↔ IsId v := by
  cases v with
  | int n =>
    have hnat : (∃ m : Nat, Json.int n = .int m) ↔ 0 ≤ n := by
      simp only [Json.int.injEq]
      exact ⟨fun ⟨m, hm⟩ => by omega, fun hn => ⟨n.toNat, by omega⟩⟩
    rw [IsId, hnat]
    by_cases hn : 0 ≤ n <;> simp [asId, IsString, hn]
  | _ => simp [asId, IsId, IsString]

theorem isSome_oneOr_asId {values : List Json} :
    (oneOr false (fun v => (asId v).map fun _ => true) values).isSome = true ↔
      Omissible IsId values := by
  rcases values with _ | ⟨v, _ | ⟨w, values⟩⟩
  · simp [oneOr, Omissible]
  · have hid := asId_eq_ok_iff (v := v)
    cases hv : asId v <;> simp_all [oneOr, one, Omissible, Given, Except.map]
  · simp [oneOr, one, Omissible, Given]

theorem tellsResult_iff {members : List (String × Json)} {result : Json} :
    TellsResult (.obj members) result ↔
      oneOr none (fun v => .ok (some (some v))) (valuesUnder ["result"] members) =
          some (some (some result)) ∧
        oneOr none (fun v => (asRefusal v).map some) (valuesUnder ["error"] members) = some none ∧
        (oneOr false (fun v => (asId v).map fun _ => true)
          (valuesUnder ["id"] members)).isSome := by
  rw [oneOr_eq_none_iff, isSome_oneOr_asId]
  have hresult : ∀ values : List Json, oneOr none (fun v => .ok (some (some v))) values =
      some (some (some result)) ↔ values = [result] := by
    rintro (_ | ⟨v, _ | ⟨w, values⟩⟩) <;> simp [oneOr, one]
  simp [TellsResult, hresult]

theorem tellsError_iff {members : List (String × Json)} {code : Int} {text : String} :
    TellsError (.obj members) code text ↔
      oneOr none (fun v => .ok (some (some v))) (valuesUnder ["result"] members) = some none ∧
        oneOr none (fun v => (asRefusal v).map some) (valuesUnder ["error"] members) =
          some (some (code, text)) ∧
        (oneOr false (fun v => (asId v).map fun _ => true)
          (valuesUnder ["id"] members)).isSome := by
  rw [reads_asRefusal.oneOr_some, isSome_oneOr_asId]
  have hresult : ∀ values : List Json, oneOr none (fun v => .ok (some (some v))) values =
      some none ↔ values = [] := by
    rintro (_ | ⟨v, _ | ⟨w, values⟩⟩) <;> simp [oneOr, one]
  simp [TellsError, hresult]

/-- The meaning of an answer is told by its members. -/
theorem meaning_eq_some_iff {members : List (String × Json)}
    {meaning : Except (Int × String) (Option Json)} :
    (answerShape.ofMembers members).toOption.bind Told.meaning? = some meaning ↔
      (∃ result, meaning = .ok (some result) ∧ TellsResult (.obj members) result) ∨
        ∃ code text, meaning = .error (code, text) ∧ TellsError (.obj members) code text := by
  simp only [tellsResult_iff, tellsError_iff, answerShape_ofMembers]
  have hresult : oneOr none (fun v => .ok (some (some v))) (valuesUnder ["result"] members) ≠
      some (some none) := by
    rcases valuesUnder ["result"] members with _ | ⟨v, _ | ⟨w, values⟩⟩ <;> simp [oneOr, one]
  generalize oneOr none (fun v => .ok (some (some v))) (valuesUnder ["result"] members) = result?
    at hresult ⊢
  generalize oneOr none (fun v => (asRefusal v).map some) (valuesUnder ["error"] members) = error?
  generalize oneOr false (fun v => (asId v).map fun _ => true) (valuesUnder ["id"] members) = id?
  rcases id? with _ | id
  · simp
  rcases error? with _ | _ | ⟨code, text⟩
  · simp
  · rcases result? with _ | _ | _ | result
    · simp
    · simp [Told.meaning?]
    · exact absurd rfl hresult
    · simp [Told.meaning?, eq_comm]
  · rcases result? with _ | _ | _ | result
    · simp
    · simp [Told.meaning?, eq_comm]
    · exact absurd rfl hresult
    · simp [Told.meaning?]

/-! ## Answers and lists of answers -/

/-- The value is that of an answer. -/
def IsAnswer (v : Json) : Prop :=
  (∃ result, TellsResult v result) ∨ ∃ code text, TellsError v code text

/-- What a value means as an answer. -/
def meaning? : Json → Option (Except (Int × String) (Option Json))
  | .obj members => (answerShape.ofMembers members).toOption.bind Told.meaning?
  | _ => none

theorem meaning?_eq_none {v : Json} (h : ∀ members, v ≠ .obj members) : meaning? v = none := by
  cases v with
  | obj members => exact absurd rfl (h members)
  | _ => rfl

theorem meaning?_eq_some_iff {v : Json} {meaning : Except (Int × String) (Option Json)} :
    meaning? v = some meaning ↔
      (∃ result, meaning = .ok (some result) ∧ TellsResult v result) ∨
        ∃ code text, meaning = .error (code, text) ∧ TellsError v code text := by
  cases v with
  | obj members => exact meaning_eq_some_iff
  | _ => simp [meaning?, TellsResult, TellsError]

theorem isSome_meaning?_iff {v : Json} : (meaning? v).isSome = true ↔ IsAnswer v := by
  simp only [Option.isSome_iff_exists, meaning?_eq_some_iff, IsAnswer]
  constructor
  · rintro ⟨-, ⟨result, -, h⟩ | ⟨code, text, -, h⟩⟩
    · exact .inl ⟨result, h⟩
    · exact .inr ⟨code, text, h⟩
  · rintro (⟨result, h⟩ | ⟨code, text, h⟩)
    · exact ⟨_, .inl ⟨result, rfl, h⟩⟩
    · exact ⟨_, .inr ⟨code, text, rfl, h⟩⟩

/-- An answer in front of a text, with its opening brace. -/
def readItem (cs : List Char) : Except Fault (Answer × List Char) :=
  match skipGap cs with
  | '\x7b' :: rest => readAnswer rest
  | cs => throw (refuse
      "a JSON-RPC response object, consisting of either a result or an error" cs)

section answers

variable {depth fuel : Nat} {first : Bool} {v : Json} {items : List Json} {cs rest : List Char}

theorem readItem_toOption (h : Reading depth (.value v) cs rest) (hdepth : depth ≤ maxDepth) :
    ((readItem cs).toOption.map fun read => (Answer.meaning read.1, read.2)) =
      (meaning? v).map (·, rest) := by
  cases h with
  | scalar hcs =>
    obtain ⟨-, hobject⟩ := head_of_readValue hcs
    obtain ⟨c, body, hgap, -⟩ := readValue_cases hcs
    rw [hgap, List.head?_cons, ne_eq, Option.some.injEq] at hobject
    rw [meaning?_eq_none (ne_container_of_readValue hcs).2]
    simp [readItem, hgap, hobject]
  | list hcs _ =>
    simp [readItem, hcs, meaning?]
  | object hcs hmembers =>
    simp only [readItem, hcs]
    exact readAnswer_toOption hmembers (by omega)

theorem readAnswers_eq (fuel : Nat) (first : Bool) (cs : List Char) :
    readAnswers (fuel + 1) first cs = (do
      match ← nextItem first cs with
      | none => return ([], dropToken cs)
      | some cs =>
        let (a, rest) ← readItem cs
        let (more, rest) ← readAnswers fuel false rest
        return (a :: more, rest)) := by
  rw [readAnswers]
  refine congrArg _ (funext fun place => ?_)
  cases place with
  | none => rfl
  | some cs =>
    dsimp only [readItem]
    rcases skipGap cs with _ | ⟨c, body⟩
    · rfl
    by_cases hc : c = '\x7b'
    · subst hc
      rfl
    · simp [hc]

/-- A list of answers is read just when every item is one. -/
theorem readAnswers_eq_ok_iff (h : Reading depth (.items first items) cs rest)
    (hdepth : depth ≤ maxDepth) (hfuel : cs.length < fuel) {behind : List Char} :
    (∃ answers, readAnswers fuel first cs = .ok (answers, behind)) ↔
      behind = rest ∧ ∀ item ∈ items, IsAnswer item := by
  induction items generalizing fuel first cs with
  | nil =>
    obtain ⟨fuel, rfl⟩ : ∃ n, fuel = n + 1 := ⟨fuel - 1, by omega⟩
    cases h with
    | noItem hcs =>
      rw [readAnswers_eq, nextItem_eq_none_iff.mpr ⟨_, hcs⟩]
      simp [dropToken, hcs, pure, Except.pure, eq_comm]
  | cons v items ih =>
    obtain ⟨fuel, rfl⟩ : ∃ n, fuel = n + 1 := ⟨fuel - 1, by omega⟩
    cases h with
    | item hcs hv hitems =>
      have hplace := hcs.length_le
      have hmiddle := hv.length_lt
      have hread := readItem_toOption hv hdepth
      have hmore : (∃ answers, readAnswers fuel false _ = .ok (answers, behind)) ↔ _ :=
        ih hitems (by omega)
      rw [readAnswers_eq, nextItem_eq_some_iff.mpr hcs, ok_bind, List.forall_mem_cons,
        ← isSome_meaning?_iff, and_left_comm, ← hmore]
      dsimp only
      cases hitem : readItem _ with
      | error fault =>
        rw [hitem] at hread
        rw [Option.map_eq_none_iff.mp hread.symm]
        simp
      | ok taken =>
        obtain ⟨a, middle⟩ := taken
        rw [hitem] at hread
        obtain ⟨meaning, hmeaning, heq⟩ := Option.map_eq_some_iff.mp hread.symm
        obtain ⟨-, rfl⟩ := Prod.mk.inj heq
        rw [hmeaning]
        simp [bind_eq_ok_iff, pure, Except.pure]

/-- An object is read as a single answer, the one that it means. -/
theorem parse_object {text : String} {members : List (String × Json)} {body : List Char}
    (hcs : skipGap text.toList = '\x7b' :: body)
    (h : Reading depth (.members true members) body rest) (hdepth : depth ≤ maxDepth)
    (hend : skipGap rest = []) :
    (∀ answers, parse text ≠ .ok (.batch answers)) ∧
      ∀ meaning, (∃ a, parse text = .ok (.single a) ∧ a.meaning = meaning) ↔
        meaning? (.obj members) = some meaning := by
  have hread : ((readAnswer body).toOption.map fun read => (read.1.meaning, read.2)) =
      (meaning? (.obj members)).map (·, rest) := readAnswer_toOption h hdepth
  cases hanswer : readAnswer body with
  | error fault =>
    have hparse : parse text = .error fault := by simp [parse, hcs, hanswer]
    rw [hanswer] at hread
    rw [Option.map_eq_none_iff.mp hread.symm, hparse]
    simp
  | ok taken =>
    obtain ⟨a, behind⟩ := taken
    rw [hanswer] at hread
    obtain ⟨meaning, hmeaning, heq⟩ := Option.map_eq_some_iff.mp hread.symm
    obtain ⟨rfl, rfl⟩ := Prod.mk.inj heq
    have hparse : parse text = .ok (.single a) := by
      simp [parse, hcs, hanswer, readEnd_eq_ok_iff.mpr hend, pure, Except.pure]
    rw [hmeaning, hparse]
    simp

/-- A list is read as a batch when all its items are answers, and otherwise not at all. -/
theorem parse_list {text : String} {body : List Char} (hcs : skipGap text.toList = '[' :: body)
    (h : Reading depth (.items true items) body rest) (hdepth : depth ≤ maxDepth)
    (hend : skipGap rest = []) :
    ((∃ answers, parse text = .ok (.batch answers)) ↔ ∀ item ∈ items, IsAnswer item) ∧
      ∀ a, parse text ≠ .ok (.single a) := by
  have hread : ∀ behind, (∃ answers, readAnswers (body.length + 1) true body =
      .ok (answers, behind)) ↔ behind = rest ∧ ∀ item ∈ items, IsAnswer item := fun behind =>
    readAnswers_eq_ok_iff h hdepth (Nat.lt_succ_self _)
  cases hanswers : readAnswers (body.length + 1) true body with
  | error fault =>
    have hparse : parse text = .error fault := by simp [parse, hcs, hanswers]
    have hitems := hread rest
    rw [hanswers] at hitems
    rw [hparse]
    simpa using hitems
  | ok taken =>
    obtain ⟨answers, behind⟩ := taken
    obtain ⟨rfl, hitems⟩ := (hread behind).mp ⟨answers, hanswers⟩
    have hparse : parse text = .ok (.batch answers) := by
      simp [parse, hcs, hanswers, readEnd_eq_ok_iff.mpr hend, pure, Except.pure]
    rw [hparse]
    simpa using hitems

theorem parse_scalar {text : String} (h : readValue 1 0 text.toList = .ok (v, rest)) :
    ∃ fault, parse text = .error fault := by
  obtain ⟨hlist, hobject⟩ := head_of_readValue h
  obtain ⟨c, body, hgap, -⟩ := readValue_cases h
  rw [hgap, List.head?_cons, ne_eq, Option.some.injEq] at hlist hobject
  simp [parse, hgap, hlist, hobject]

/-- What stands in an envelope, where its text is that of a value, is told by the value. -/
theorem parse_of_value {text : String} (h : Json.parse text = .ok v) :
    ((∃ answers, parse text = .ok (.batch answers)) ↔ IsBatch v) ∧
      (∀ code words, parse text = .ok (.single (.error code words)) ↔ TellsError v code words) ∧
      ∀ w, (∃ raw, parse text = .ok (.single (.result raw)) ∧
        Json.parse (String.ofList raw) = .ok w) ↔ TellsResult v w := by
  obtain ⟨rest, hread, hend⟩ := Json.parse_eq_ok_iff.mp h
  have hsingle : (∀ meaning, (∃ a, parse text = .ok (.single a) ∧ a.meaning = meaning) ↔
      meaning? v = some meaning) →
      (∀ code words, parse text = .ok (.single (.error code words)) ↔ TellsError v code words) ∧
        ∀ w, (∃ raw, parse text = .ok (.single (.result raw)) ∧
          Json.parse (String.ofList raw) = .ok w) ↔ TellsResult v w := by
    intro hmeaning
    refine ⟨fun code words => ?_, fun w => ?_⟩
    · simpa [Answer.meaning_eq_error_iff, meaning?_eq_some_iff] using
        hmeaning (.error (code, words))
    · simpa [Answer.meaning_eq_ok_iff, meaning?_eq_some_iff, and_assoc] using
        hmeaning (.ok (some w))
  cases hread with
  | object hcs hmembers =>
    obtain ⟨hbatch, hmeaning⟩ := parse_object hcs hmembers (by decide) hend
    refine ⟨?_, hsingle hmeaning⟩
    simp [hbatch, IsBatch]
  | list hcs hitems =>
    obtain ⟨hbatch, hnone⟩ := parse_list hcs hitems (by decide) hend
    refine ⟨?_, hsingle fun meaning => ?_⟩
    · rw [hbatch]
      simp [IsBatch, IsAnswer]
    · simp [hnone, meaning?]
  | scalar hcs =>
    obtain ⟨fault, hparse⟩ := parse_scalar hcs
    obtain ⟨harr, hobj⟩ := ne_container_of_readValue hcs
    refine ⟨by simp [hparse, IsBatch, harr], hsingle fun meaning => ?_⟩
    simp [hparse, meaning?_eq_none hobj]

end answers

end Envelope

end FeedExplorer.Source
