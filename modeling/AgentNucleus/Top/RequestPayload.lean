/-
What `TopRuntime` reads out of a payload: the search for a key in a JSON text, the strings
and integers behind it, and the prompt of a generation with its dependencies.  A position
in a text is what is left of it from there.
-/

import AgentNucleus.Runtime.InvocationChannel
import AgentNucleus.Top.RuntimeStores

set_option autoImplicit false

namespace AgentNucleus.Top

open AgentNucleus.Runtime (AgentId InvocationMappedInput InvocationRequest StdString mappedText
  text toStdString)

/-! ### JSON -/

/-- `std::isspace` of the classic locale. -/
def isSpace (byte : UInt8) : Bool :=
  byte == 32 || (decide (9 ≤ byte) && decide (byte ≤ 13))

def skipSpace (rest : StdString) : StdString :=
  rest.dropWhile isSpace

/-- What stands behind the first occurrence of a marker. -/
def afterMarker (marker : StdString) : StdString → Option StdString
  | [] => if marker.isEmpty then some [] else none
  | byte :: rest =>
      if marker.isPrefixOf (byte :: rest) then some ((byte :: rest).drop marker.length)
      else afterMarker marker rest

def jsonValuePosition (json key : StdString) : Option StdString :=
  match afterMarker (34 :: key ++ [34]) json with
  | none => none
  | some rest =>
      match skipSpace rest with
      | 58 :: value => some (skipSpace value)
      | _ => none

/-- What an escaped character stands for. -/
def unescaped (byte : UInt8) : Option UInt8 :=
  if byte = 34 ∨ byte = 92 ∨ byte = 47 then some byte
  else if byte = 98 then some 8
  else if byte = 102 then some 12
  else if byte = 110 then some 10
  else if byte = 114 then some 13
  else if byte = 116 then some 9
  else none

/-- The loop behind the opening quote. -/
def stringBody : StdString → StdString → Option StdString
  | _, [] => none
  | value, [current] => if current = 34 then some value else none
  | value, current :: next :: rest =>
      if current = 34 then some value
      else if current ≠ 92 then stringBody (value ++ [current]) (next :: rest)
      else
        match unescaped next with
        | some byte => stringBody (value ++ [byte]) rest
        | none => none

def jsonString (json key : StdString) : Option StdString :=
  match jsonValuePosition json key with
  | some (34 :: rest) => stringBody [] rest
  | _ => none

def isDigit (byte : UInt8) : Bool :=
  decide (48 ≤ byte) && decide (byte ≤ 57)

def digitsValue (digits : StdString) : Nat :=
  digits.foldl (fun value digit => 10 * value + (digit.toNat - 48)) 0

/-- `std::strtoll` to the base ten; without a digit it ends where it began.  What it
clamps is refused afterwards as well. -/
def strtoll (rest : StdString) : Option Int :=
  let start := skipSpace rest
  let unsigned :=
    if start.head? = some 43 ∨ start.head? = some 45 then start.drop 1 else start
  let digits := unsigned.takeWhile isDigit
  if digits.isEmpty then none
  else if start.head? = some 45 then some (-(digitsValue digits : Int))
  else some (digitsValue digits)

/-- `json_number<int>`. -/
def jsonInt (json key : StdString) : Option Int :=
  match (jsonValuePosition json key).bind strtoll with
  | none => none
  | some value => if value < -2147483648 ∨ 2147483647 < value then none else some value

/-- `payload[skip_space(payload, 0)] == '{'`. -/
def isObject (payload : StdString) : Bool :=
  (skipSpace payload).head? == some 123

/-! ### The operations -/

/-- The prompt of `warmup_prefix`. -/
def warmupPrompt (payload : StdString) : StdString :=
  if isObject payload then (jsonString payload (text "system_prompt")).getD [] else payload

/-- The line that announces a dependency. -/
def dependencyMarker (producerId : AgentId) : StdString :=
  text "\n[dependency " ++ toStdString producerId ++ text "]\n"

/-- The loop over the inputs.  The inputs of a server can always be read. -/
def appendDependencies : StdString → List InvocationMappedInput → Except StdString StdString
  | prompt, [] => .ok prompt
  | prompt, input :: inputs =>
      if LLM_MAX_PROMPT < input.reference.length.toNat then
        .error (text "model dependency input exceeds prompt limit")
      else
        let dependency := (mappedText input).getD []
        let marker := dependencyMarker input.producerId
        if dependency.isEmpty then appendDependencies prompt inputs
        else if LLM_MAX_PROMPT < prompt.length ∨ LLM_MAX_PROMPT - prompt.length < marker.length ∨
            LLM_MAX_PROMPT - prompt.length - marker.length < dependency.length then
          .error (text "combined model prompt exceeds size limit")
        else appendDependencies (prompt ++ marker ++ dependency) inputs

/-- The payload of `generate`.  Whether temperature and `top_p` are in range is a question
of floating point, and so an argument. -/
def generatePayload (config : ServingConfig) (samplingValid : Bool) (request : InvocationRequest)
    (inputs : List InvocationMappedInput) :
    Except StdString RuntimeStores.GeneratePayload :=
  let object := isObject request.payload
  let prompt :=
    if object then (jsonString request.payload (text "prompt")).getD [] else request.payload
  let systemPrompt :=
    if object then (jsonString request.payload (text "system_prompt")).getD [] else []
  let maxTokens :=
    if object then (jsonInt request.payload (text "max_tokens")).getD config.maxTokens.toNat
    else config.maxTokens.toNat
  (appendDependencies prompt inputs).map fun prompt =>
    { prompt, systemPrompt, maxTokens, samplingValid }

/-! ### What is accepted -/

/-- A refusal has one of two texts. -/
theorem appendDependencies_refused (prompt : StdString) (inputs : List InvocationMappedInput)
    (message : StdString) (refused : appendDependencies prompt inputs = .error message) :
    message = text "model dependency input exceeds prompt limit" ∨
      message = text "combined model prompt exceeds size limit" := by
  induction inputs generalizing prompt with
  | nil => cases refused
  | cons input inputs ih =>
      unfold appendDependencies at refused
      split at refused
      · cases refused
        exact Or.inl rfl
      · dsimp only at refused
        split at refused
        · exact ih prompt refused
        · split at refused
          · cases refused
            exact Or.inr rfl
          · exact ih _ refused

example : jsonString (text "\x7b \"max_tokens\" : 7, \"prompt\":\"a\\nb\"\x7d") (text "prompt") =
    some (text "a\nb") := by decide +kernel

example : jsonInt (text "\x7b \"max_tokens\" : 7, \"prompt\":\"a\\nb\"\x7d") (text "max_tokens") =
    some 7 := by decide +kernel

end AgentNucleus.Top
