import Skywalking.RustStd.Text

/-!
`agent/config.rs`: the configuration of a reporter, read from the environment and drawn
at random.

What `Config::new` gets from outside at one call is a `ConfigDraw`: the outcome of the
search for the address of the instance, a version 4 UUID and a random word.

* `instanceText_inj`: the instance name made of a UUID and an address determines both.
-/

namespace Skywalking

open RustStd

/-! ### Version 4 UUIDs -/

/-- A version 4 UUID, as its thirty-two hexadecimal digits. -/
structure Uuid where
  digits : List (Fin 16)
  length_eq : digits.length = 32
  version : digits[12]? = some 4
  variant : ∃ n ∈ digits[16]?, 8 ≤ n ∧ n ≤ 11

namespace Uuid

lemma ext {u v : Uuid} (h : u.digits = v.digits) : u = v := by
  cases u
  cases v
  simp only [mk.injEq]
  exact h

/-- The lower-case character of a hexadecimal digit. -/
def hexChar (d : Fin 16) : Char := Nat.digitChar d

/-- The lower-case text of `len` digits, from the digit `start` on. -/
def hex (u : Uuid) (start len : ℕ) : String :=
  String.ofList (((u.digits.drop start).take len).map hexChar)

/-- `Uuid::to_string`: the digits in groups of 8, 4, 4, 4 and 12. -/
def toString (u : Uuid) : String :=
  join '-' [u.hex 0 8, u.hex 8 4, u.hex 12 4, u.hex 16 4, u.hex 20 12]

end Uuid

/-! ### The configuration -/

/-- `APP_NAME_KEY`. -/
def appNameKey : String := "APP_NAME"

/-- `UNKNOWN_SERVICE`. -/
def unknownService : String := "UNKNOWN_SERVICE"

/-- `SKW_SER_INST_KEY`. -/
def skwSerInstKey : String := "SKW_SER_INST_KEY"

/-- `SKW_COLLECTOR_HOST_KEY`. -/
def skwCollectorHostKey : String := "SKW_COLLECTOR_HOST_KEY"

/-- `SKW_COLLECTOR_PORT_KEY`. -/
def skwCollectorPortKey : String := "SKW_COLLECTOR_PORT_KEY"

/-- The environment of the process: `std::env::var(key).ok()`. -/
abbrev Env := String → Option String

/-- What one call of `Config::new` gets from outside: the address `get_inst_default_ip`
finds (`none` for its error), a UUID and a random word. -/
structure ConfigDraw where
  instIp : Option String
  uuid : Uuid
  random : UInt32

/-- `Config`. -/
structure Config where
  collectorHost : Option String
  collectorPort : Option String
  serviceName : String
  serviceInstance : String
  instanceId : Int32
  ip : String
  deriving DecidableEq, Repr

/-- The address text of a draw, `Unknown` where none was found. -/
def ConfigDraw.currentInstIp (draw : ConfigDraw) : String := draw.instIp.getD "Unknown"

/-- The instance name made of a draw: the digits of the UUID, `@` and the address. -/
def ConfigDraw.instanceText (draw : ConfigDraw) : String :=
  replace '-' "" draw.uuid.toString ++ "@" ++ draw.currentInstIp

namespace Config

/-- `Config::new`. -/
def new (env : Env) (draw : ConfigDraw) : Config where
  collectorHost := some ((env skwCollectorHostKey).getD "127.0.0.1")
  collectorPort := some ((env skwCollectorPortKey).getD "11800")
  serviceName := (env appNameKey).getD unknownService
  serviceInstance := (env skwSerInstKey).getD draw.instanceText
  instanceId := draw.random.toInt32
  ip := draw.currentInstIp

/-- `get_addr_client`. -/
def getAddrClient (config : Config) : String :=
  config.collectorHost.getD "UnknowHost" ++ ":" ++ config.collectorPort.getD "UnknownPort"

end Config

/-! ### The instance name determines the draw -/

namespace Uuid

lemma hexChar_injective : Function.Injective hexChar := by decide

lemma hexChar_ne_dash : ∀ d : Fin 16, hexChar d ≠ '-' := by decide

lemma dash_notMem_hex (u : Uuid) (start len : ℕ) : '-' ∉ (u.hex start len).toList := by
  rw [hex, String.toList_ofList]
  intro h
  obtain ⟨d, -, hd⟩ := List.mem_map.mp h
  exact hexChar_ne_dash d hd

/-- The five groups are the thirty-two digits. -/
lemma groups_eq (u : Uuid) :
    (u.digits.drop 0).take 8 ++ ((u.digits.drop 8).take 4 ++ ((u.digits.drop 12).take 4
      ++ ((u.digits.drop 16).take 4 ++ (u.digits.drop 20).take 12))) = u.digits := by
  have hlast : (u.digits.drop 20).take 12 = u.digits.drop 20 :=
    List.take_of_length_le (by simp [u.length_eq])
  have hcut : ∀ i n, (u.digits.drop i).take n ++ u.digits.drop (i + n) = u.digits.drop i := by
    intro i n
    rw [← List.drop_drop, List.take_append_drop]
  rw [hlast, hcut 16 4, hcut 12 4, hcut 8 4, hcut 0 8, List.drop_zero]

/-- Without its hyphens a UUID is its thirty-two digits. -/
lemma toList_replace_toString (u : Uuid) :
    (replace '-' "" u.toString).toList = u.digits.map hexChar := by
  have hdash : ∀ p ∈ [u.hex 0 8, u.hex 8 4, u.hex 12 4, u.hex 16 4, u.hex 20 12],
      '-' ∉ p.toList := by
    intro p hp
    simp only [List.mem_cons, List.not_mem_nil, or_false] at hp
    rcases hp with rfl | rfl | rfl | rfl | rfl <;> exact u.dash_notMem_hex _ _
  rw [toString, toList_replace_join hdash]
  conv_rhs => rw [← u.groups_eq]
  simp [hex]

end Uuid

/-- Two draws give the same instance name exactly if they give the same UUID and the
same address. -/
theorem instanceText_inj {d₁ d₂ : ConfigDraw} :
    d₁.instanceText = d₂.instanceText
      ↔ d₁.uuid = d₂.uuid ∧ d₁.currentInstIp = d₂.currentInstIp := by
  refine ⟨fun h => ?_, fun ⟨hu, hip⟩ => by rw [ConfigDraw.instanceText, hu, hip]; rfl⟩
  have hlist := congrArg String.toList h
  simp only [ConfigDraw.instanceText, String.toList_append, Uuid.toList_replace_toString,
    List.append_assoc] at hlist
  have hlen : (d₁.uuid.digits.map Uuid.hexChar).length
      = (d₂.uuid.digits.map Uuid.hexChar).length := by
    simp [d₁.uuid.length_eq, d₂.uuid.length_eq]
  obtain ⟨hdigits, hrest⟩ := List.append_inj hlist hlen
  refine ⟨Uuid.ext ?_, ?_⟩
  · exact List.map_injective_iff.mpr Uuid.hexChar_injective hdigits
  · exact String.toList_inj.mp (List.append_cancel_left hrest)

/-! ### Draws for examples -/

/-- A version 4 UUID with `d` as its last digit and `0` in all free places before. -/
def Uuid.demo (d : ℕ) : Uuid where
  digits := List.replicate 12 0 ++ [4] ++ List.replicate 3 0 ++ [8] ++ List.replicate 14 0
    ++ [Fin.ofNat 16 d]
  length_eq := by simp
  version := by simp
  variant := ⟨8, by simp, by decide, by decide⟩

/-- A draw with such a UUID. -/
def ConfigDraw.demo (d : ℕ) : ConfigDraw := ⟨some "10.0.0.1", Uuid.demo d, 7⟩

end Skywalking
