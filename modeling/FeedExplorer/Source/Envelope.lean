import FeedExplorer.Json.Embedded
import FeedExplorer.Json.Skipper

/-!
# Answer envelopes

The object that a remote procedure answers with: a result, which is left unread, or an error with
a code. Exactly one of the two has to be there. A list of such objects answers several calls.
-/

namespace FeedExplorer.Source

open Json (Fault Mismatch complain refuse)

/-- The answer to one call. -/
inductive Answer where
  | result (raw : List Char)
  | error (code : Int) (text : String)
  deriving DecidableEq, Repr

inductive Envelope where
  | single (answer : Answer)
  | batch (answers : List Answer)
  deriving Repr

namespace Envelope

/-- The rest behind the end of an object, if its end is next. -/
def pastObject (cs : List Char) : List Char :=
  match Json.skipGap cs with
  | '\x7d' :: rest => rest
  | rest => rest

/-- The rest behind the end of a list, or behind a comma, if either is next. -/
def pastList (cs : List Char) : List Char :=
  match Json.skipGap cs with
  | ']' :: rest => rest
  | ',' :: rest => Json.skipGap rest
  | rest => rest

/-- A complaint about an object whose members have been read up to `rest`. -/
def complainInside (text : String) (rest : List Char) : Fault :=
  complain text (pastObject rest)

/-- Refuses the value in front; a container has been entered. -/
def refuseInside (expected : String) (cs : List Char) : Fault :=
  match Json.skipGap cs with
  | '[' :: rest => complain (Mismatch.message (.wrongType (.arr []) expected)) (pastList rest)
  | '\x7b' :: rest => complain (Mismatch.message (.wrongType (.obj []) expected)) (pastObject rest)
  | _ => refuse expected cs

/-- The code of an error. -/
def readCode (cs : List Char) : Except Fault (Int × List Char) :=
  match Json.skipGap cs with
  | [] => .error (.atNext .endInValue [])
  | c :: rest =>
    if c.isDigit ∨ c = '-' then do
      let (v, rest) ←
        if c = '-' then Json.readNumber true rest else Json.readNumber false (c :: rest)
      match Json.asSigned v with
      | .ok n => return (n, rest)
      | .error m => throw (complain m.message rest)
    else .error (refuse "i64" (c :: rest))

/-- Looks at the number or name by which a call is known again. -/
def readId (cs : List Char) : Except Fault (List Char) :=
  let expected := "a string, a number, or null"
  match Json.skipGap cs with
  | [] => .error (.atNext .endInValue [])
  | cs =>
    if cs.head? = some '[' ∨ cs.head? = some '\x7b' then .error (refuseInside expected cs)
    else do
      let (v, rest) ← Json.readValue 1 0 cs
      match v with
      | .null => return rest
      | .str _ => return rest
      | .int n => if 0 ≤ n then return rest else throw (refuse expected cs)
      | _ => throw (refuse expected cs)

/-- The members of an error, as far as they have been read. -/
structure ErrorMembers where
  code : Option Int
  text : Option String
  data : Bool

/-- Reads the members of an error. The first argument bounds their number. -/
def readErrorMembers : Nat → Bool → ErrorMembers → List Char →
    Except Fault (ErrorMembers × List Char)
  | 0, _, _, cs => .error (.atNext .tooDeep cs)
  | fuel + 1, first, seen, cs => do
    match ← Json.nextMember first cs with
    | none => return (seen, Json.skipGap cs)
    | some cs =>
      let (key, rest) ← Json.readKey cs
      match key with
      | "code" =>
        if seen.code.isSome then throw (complainInside "duplicate field `code`" rest)
        let (code, rest) ← readCode (← Json.readColon rest)
        readErrorMembers fuel false { seen with code := some code } rest
      | "message" =>
        if seen.text.isSome then throw (complainInside "duplicate field `message`" rest)
        let (text, rest) ← Json.readText "a string" (← Json.readColon rest)
        readErrorMembers fuel false { seen with text := some text } rest
      | "data" =>
        if seen.data then throw (complainInside "duplicate field `data`" rest)
        let (_, rest) ← Json.takeRaw (← Json.readColon rest)
        readErrorMembers fuel false { seen with data := true } rest
      | _ => readErrorMembers fuel false seen (← Json.skipValue (← Json.readColon rest))

/-- An error with its code; without words they are empty. -/
def readError (cs : List Char) : Except Fault ((Int × String) × List Char) :=
  match Json.skipGap cs with
  | [] => .error (.atNext .endInValue [])
  | '\x7b' :: rest => do
    let (seen, rest) ←
      readErrorMembers (rest.length + 1) true { code := none, text := none, data := false } rest
    match seen.code with
    | none => throw (complainInside "missing field `code`" rest)
    | some code => return ((code, seen.text.getD ""), pastObject rest)
  | cs => .error (refuseInside "a JSON-RPC 2.0 error object" cs)

/-- The members of an answer, as far as they have been read. -/
structure Members where
  result : Option (List Char)
  error : Option (Int × String)
  id : Bool

/-- Reads the members of an answer. The first argument bounds their number. -/
def readMembers : Nat → Bool → Members → List Char → Except Fault (Members × List Char)
  | 0, _, _, cs => .error (.atNext .tooDeep cs)
  | fuel + 1, first, seen, cs => do
    match ← Json.nextMember first cs with
    | none => return (seen, Json.skipGap cs)
    | some cs =>
      let (key, rest) ← Json.readKey cs
      match key with
      | "result" =>
        if seen.result.isSome then throw (complainInside "duplicate field `result`" rest)
        let (raw, rest) ← Json.takeRaw (← Json.readColon rest)
        readMembers fuel false { seen with result := some raw } rest
      | "error" =>
        if seen.error.isSome then throw (complainInside "duplicate field `error`" rest)
        let (e, rest) ← readError (← Json.readColon rest)
        readMembers fuel false { seen with error := some e } rest
      | "id" =>
        if seen.id then throw (complainInside "duplicate field `id`" rest)
        let rest ← readId (← Json.readColon rest)
        readMembers fuel false { seen with id := true } rest
      | _ => readMembers fuel false seen (← Json.skipValue (← Json.readColon rest))

/-- An answer whose opening brace has been taken. -/
def readAnswer (cs : List Char) : Except Fault (Answer × List Char) := do
  let (seen, rest) ←
    readMembers (cs.length + 1) true { result := none, error := none, id := false } cs
  match seen.result, seen.error with
  | some raw, none => return (.result raw, pastObject rest)
  | none, some (code, text) => return (.error code text, pastObject rest)
  | none, none => throw (complainInside "missing field `result or error`" rest)
  | some _, some _ => throw (complainInside "result and error are mutually exclusive" rest)

/-- The answers of a list up to its closing bracket. The first argument bounds their number. -/
def readAnswers : Nat → Bool → List Char → Except Fault (List Answer × List Char)
  | 0, _, cs => .error (.atNext .tooDeep cs)
  | fuel + 1, first, cs => do
    match ← Json.nextItem first cs with
    | none => return ([], Json.dropToken cs)
    | some cs =>
      let (a, rest) ← match Json.skipGap cs with
        | '\x7b' :: rest => readAnswer rest
        | cs => throw (refuse
            "a JSON-RPC response object, consisting of either a result or an error" cs)
      let (more, rest) ← readAnswers fuel false rest
      return (a :: more, rest)

/-- The envelope that a whole text stands for. -/
def parse (text : String) : Except Fault Envelope := do
  let (envelope, rest) ← match Json.skipGap text.toList with
    | [] => throw (.atNext .endInValue [])
    | '\x7b' :: rest => do
      let (a, rest) ← readAnswer rest
      pure (single a, rest)
    | '[' :: rest => do
      let (answers, rest) ← readAnswers (rest.length + 1) true rest
      pure (batch answers, rest)
    | cs => throw (refuse "a single response or a batch of responses" cs)
  Json.readEnd rest
  return envelope

end Envelope

end FeedExplorer.Source
