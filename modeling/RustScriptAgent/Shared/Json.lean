import Mathlib.Data.List.Basic

/-- A JSON document. Numbers that are not integers keep their literal. -/
inductive Json where
  | null
  | bool (value : Bool)
  | int (value : Int)
  | float (literal : String)
  | str (value : String)
  | arr (items : List Json)
  | obj (fields : List (String × Json))

namespace Json

mutual
def same : Json → Json → Bool
  | null, null => true
  | bool a, bool b => a == b
  | int a, int b => a == b
  | float a, float b => a == b
  | str a, str b => a == b
  | arr as, arr bs => sameItems as bs
  | obj as, obj bs => sameFields as bs
  | _, _ => false

def sameItems : List Json → List Json → Bool
  | [], [] => true
  | a :: as, b :: bs => same a b && sameItems as bs
  | _, _ => false

def sameFields : List (String × Json) → List (String × Json) → Bool
  | [], [] => true
  | (key, a) :: as, (other, b) :: bs => key == other && same a b && sameFields as bs
  | _, _ => false
end

mutual
theorem same_iff : ∀ a b : Json, same a b ↔ a = b
  | null, b => by cases b <;> simp [same]
  | bool _, b => by cases b <;> simp [same]
  | int _, b => by cases b <;> simp [same]
  | float _, b => by cases b <;> simp [same]
  | str _, b => by cases b <;> simp [same]
  | arr as, b => by cases b <;> simp [same, sameItems_iff as]
  | obj as, b => by cases b <;> simp [same, sameFields_iff as]

theorem sameItems_iff : ∀ as bs : List Json, sameItems as bs ↔ as = bs
  | [], bs => by cases bs <;> simp [sameItems]
  | a :: as, bs => by cases bs <;> simp [sameItems, same_iff a, sameItems_iff as]

theorem sameFields_iff : ∀ as bs : List (String × Json), sameFields as bs ↔ as = bs
  | [], bs => by cases bs <;> simp [sameFields]
  | (key, a) :: as, bs => by
    cases bs with
    | nil => simp [sameFields]
    | cons b bs =>
      rcases b with ⟨other, b⟩
      simp [sameFields, same_iff a, sameFields_iff as]
end

instance : DecidableEq Json := fun a b => decidable_of_iff _ (same_iff a b)

def get? (key : String) : Json → Option Json
  | obj fields => (fields.find? (fun field => field.1 == key)).map Prod.snd
  | _ => none

def asStr? : Json → Option String
  | str value => some value
  | _ => none

def asInt? : Json → Option Int
  | int value => some value
  | _ => none

def asBool? : Json → Option Bool
  | bool value => some value
  | _ => none

def asArr? : Json → Option (List Json)
  | arr items => some items
  | _ => none

def getStr? (key : String) (document : Json) : Option String :=
  (document.get? key).bind asStr?

def getInt? (key : String) (document : Json) : Option Int :=
  (document.get? key).bind asInt?

def hexDigit (n : Nat) : Char :=
  if n < 10 then Char.ofNat (48 + n) else Char.ofNat (87 + n)

def escapeChar (c : Char) : List Char :=
  if c = '"' then ['\\', '"']
  else if c = '\\' then ['\\', '\\']
  else if c.toNat = 8 then ['\\', 'b']
  else if c.toNat = 12 then ['\\', 'f']
  else if c = '\n' then ['\\', 'n']
  else if c = '\r' then ['\\', 'r']
  else if c = '\t' then ['\\', 't']
  else if c.toNat < 32 then ['\\', 'u', '0', '0', hexDigit (c.toNat / 16), hexDigit (c.toNat % 16)]
  else [c]

def quote (text : String) : String :=
  "\"" ++ String.ofList (text.toList.flatMap escapeChar) ++ "\""

theorem escapeChar_length (c : Char) : (escapeChar c).length ≤ 6 := by
  unfold escapeChar
  split_ifs <;> simp

theorem quote_length_le (text : String) : (quote text).length ≤ 6 * text.length + 2 := by
  have escaped : ∀ chars : List Char, (chars.flatMap escapeChar).length ≤ 6 * chars.length := by
    intro chars
    induction chars with
    | nil => simp
    | cons c rest ih =>
      have := escapeChar_length c
      rw [List.flatMap_cons, List.length_append, List.length_cons]
      omega
  have inner := escaped text.toList
  have mark : "\"".length = 1 := by decide
  rw [String.length_toList] at inner
  simp only [quote, String.length_append, String.length_ofList, mark]
  omega

mutual
def render : Json → String
  | null => "null"
  | bool true => "true"
  | bool false => "false"
  | int value => toString value
  | float literal => literal
  | str value => quote value
  | arr items => "[" ++ renderItems items ++ "]"
  | obj fields => "\x7b" ++ renderFields fields ++ "\x7d"

def renderItems : List Json → String
  | [] => ""
  | [item] => render item
  | item :: rest => render item ++ "," ++ renderItems rest

def renderFields : List (String × Json) → String
  | [] => ""
  | [(key, value)] => quote key ++ ":" ++ render value
  | (key, value) :: rest => quote key ++ ":" ++ render value ++ "," ++ renderFields rest
end

example : render (obj [("a", int 3), ("b", arr [null, str "x\n"])]) =
    "\x7b\"a\":3,\"b\":[null,\"x\\n\"]\x7d" := by decide

end Json
