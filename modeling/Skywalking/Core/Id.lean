import Skywalking.RustStd.Text
import Skywalking.RustStd.Time

/-!
`core/id.rs`: the identifiers of traces and of trace segments.

* `ID`, `ID.toString`: three 64-bit numbers printed with dots between them, or a
  text of any form. `ID.fromString` reads the three numbers back.
* `IDGenerator.newId`: an identifier drawn from the service instance, a random word
  and the wall clock; the generator unwraps the distance from the epoch, so it
  panics on a clock that reads before it.
-/

namespace Skywalking

open RustStd

/-- The ways in which the modelled code can panic. -/
inductive Panic where
  /-- `Option::unwrap` of `None`. -/
  | unwrapNone
  /-- `todo!()`. -/
  | todo
  deriving DecidableEq, Repr

/-- `ID` is used for trace id and segment id. -/
inductive ID where
  | numID (part1 part2 part3 : Int64)
  | strID (s : String)
  deriving DecidableEq, Repr

/-- `ID::new`. -/
def ID.new (part1 part2 part3 : Int64) : ID := .numID part1 part2 part3

/-- `ToString for ID`. -/
def ID.toString : ID → String
  | .numID a b c => join '.' [ToString.toString a, ToString.toString b, ToString.toString c]
  | .strID s => s

/-- `ID::from`. -/
def ID.fromString (idText : String) : Except String ID :=
  match split '.' idText with
  | [s₁, s₂, s₃] =>
      match parseI64 s₁ with
      | none => .error "part 1 is not a i64"
      | some part1 =>
          match parseI64 s₂ with
          | none => .error "part 2 is not a i64"
          | some part2 =>
              match parseI64 s₃ with
              | none => .error "part 3 is not a i64"
              | some part3 => .ok (ID.new part1 part2 part3)
  | _ => .error "The ID is not combined by 3 parts."

/-- What one call of `IDGenerator::new_id` draws: a random word and a clock reading. -/
structure IdDraw where
  random : UInt64
  now : SystemTime
  deriving DecidableEq, Repr

/-- `IDGenerator::new_id`. -/
def IDGenerator.newId (instanceId : Int32) (draw : IdDraw) : Except Panic ID :=
  match draw.now.millisSinceEpoch with
  | none => .error .unwrapNone
  | some millis => .ok (ID.new instanceId.toInt64 draw.random.toInt64 (Int64.ofNat millis))

end Skywalking
