/-
  Payload validation (`commons/helpers/validation-dto-inout.ts` and the DTO classes of the JSON
  events).

  * `Constraint`, `Property`, `Dto`: the decorators of a class, property by property.
  * `JsVal.instantiates`: the values that `plainToInstance` gets through.
  * `validateDtoSafe`: the flattened errors of a payload, each with its path and the name of the
    constraint that failed.  Properties that a class does not declare are errors, unless
    `plainToInstance` leaves them out.
  * `validateDtoSafe_nil`: an accepted payload is an object whose properties are declared, or are
    left out, and meet their constraints.
  * `strField_of_valid`: its required texts are there, and none of them is empty.
-/
import GatewayRealtime.Types

namespace GatewayRealtime

/-! ## Constraints -/

/-- A decorator of a property. -/
inductive Constraint
  | isString | isNotEmpty | isNumber | isArray | arrayNotEmpty
  | isIn (values : List String)
  | isStringEach | isNotEmptyEach

namespace Constraint

/-- The key of a decorator in `constraints`. -/
def name : Constraint → String
  | isString => "isString"
  | isNotEmpty => "isNotEmpty"
  | isNumber => "isNumber"
  | isArray => "isArray"
  | arrayNotEmpty => "arrayNotEmpty"
  | isIn _ => "isIn"
  | isStringEach => "isString"
  | isNotEmptyEach => "isNotEmpty"

/-- `{ each: true }`: a value that is not an array is tested itself. -/
def each (p : Option JsVal → Bool) : Option JsVal → Bool
  | some (.arr items) => items.all fun v => p (some v)
  | v => p v

def stringOk : Option JsVal → Bool
  | some (.str _) => true
  | _ => false

def notEmptyOk : Option JsVal → Bool
  | none => false
  | some .null => false
  | some (.str s) => s ≠ ""
  | some _ => true

/-- Whether the value of a property, if there is one, meets the decorator. -/
def holds : Constraint → Option JsVal → Bool
  | isString, v => stringOk v
  | isNotEmpty, v => notEmptyOk v
  | isNumber, some (.num _) => true
  | isNumber, _ => false
  | isArray, some (.arr _) => true
  | isArray, _ => false
  | arrayNotEmpty, some (.arr items) => !items.isEmpty
  | arrayNotEmpty, _ => false
  | isIn values, some (.str s) => s ∈ values
  | isIn _, _ => false
  | isStringEach, v => each stringOk v
  | isNotEmptyEach, v => each notEmptyOk v

end Constraint

/-- A property with its decorators, bottom one first, as the classes register them. -/
structure Property where
  name : String
  optional : Bool := false
  constraints : List Constraint

/-- A DTO class; `nested` lists its `@ValidateNested({ each: true })` properties with the
    properties of their `@Type`. -/
structure Dto where
  properties : List Property
  nested : List (String × List Property) := []

/-! ## Instances -/

mutual

/-- Whether `plainToInstance` gets through a value, of a declared class whose properties `nested`
    have declared classes, too, or of none.  An object of no declared class that has a truthy
    `constructor` of its own is to be copied by that, which is no function. -/
def JsVal.instantiates : Option (List String) → JsVal → Bool
  | nested, .arr items => itemsInstantiate nested items
  | some nested, .obj fields => fieldsInstantiate nested fields
  | none, .obj fields =>
    !(fields.any fun f => f.1 = "constructor" && !f.2.falsy) && fieldsInstantiate [] fields
  | _, _ => true

def itemsInstantiate (nested : Option (List String)) : List JsVal → Bool
  | [] => true
  | v :: items => v.instantiates nested && itemsInstantiate nested items

/-- Properties with an inherited name are left out, and are not looked at. -/
def fieldsInstantiate (nested : List String) : List (String × JsVal) → Bool
  | [] => true
  | (k, v) :: fields =>
    (decide (k ∈ inheritedNames) || v.instantiates (if k ∈ nested then some [] else none)) &&
      fieldsInstantiate nested fields

end

/-! ## Validation -/

/-- A failed constraint: the path of the property, and the name of the constraint. -/
abbrev DtoError := String × String

/-- `undefined` and `null`, which `@IsOptional` lets through. -/
def missing : Option JsVal → Bool
  | none => true
  | some .null => true
  | some _ => false

/-- The errors of one property. -/
def Property.errors (path : String) (object : JsObj) (p : Property) : List DtoError :=
  let value := OMap.find p.name object
  if p.optional && missing value then []
  else (p.constraints.filter fun c => !c.holds value).map fun c => (path ++ p.name, c.name)

/-- `forbidNonWhitelisted`, for what `plainToInstance` has copied. -/
def whitelistErrors (path : String) (properties : List Property) (object : JsObj) :
    List DtoError :=
  (object.filter fun f => f.1 ∉ properties.map (·.name) ∧ f.1 ∉ inheritedNames).map fun f =>
    (path ++ f.1, "whitelistValidation")

/-- The errors of an object of a class without nested properties. -/
def flatErrors (path : String) (properties : List Property) (object : JsObj) : List DtoError :=
  whitelistErrors path properties object ++ properties.flatMap (Property.errors path object)

mutual

/-- The errors below a nested property: nothing is asked of `null`, and arrays are descended. -/
def nestedErrors (path : String) (properties : List Property) : JsVal → List DtoError
  | .null => []
  | .obj fields => flatErrors (path ++ ".") properties fields
  | .arr items => nestedItems path properties 0 items
  | .bool _ => [(path, "nestedValidation")]
  | .num _ => [(path, "nestedValidation")]
  | .infinity _ => [(path, "nestedValidation")]
  | .str _ => [(path, "nestedValidation")]

def nestedItems (path : String) (properties : List Property) (i : ℕ) :
    List JsVal → List DtoError
  | [] => []
  | v :: rest =>
    nestedErrors (path ++ "." ++ toString i) properties v ++
      nestedItems path properties (i + 1) rest

end

/-- The errors of the nested properties. -/
def Dto.nestedErrors (dto : Dto) (object : JsObj) : List DtoError :=
  dto.nested.flatMap fun n =>
    match OMap.find n.1 object with
    | some v => GatewayRealtime.nestedErrors n.1 n.2 v
    | none => []

/-- The errors of what `plainToInstance` has made of a payload. -/
def Dto.errors (dto : Dto) : JsVal → List DtoError
  | .obj fields => flatErrors "" dto.properties fields ++ dto.nestedErrors fields
  | _ => [("", "unknownValue")]

/-- `validateDtoSafe`: the payload is valid when there are no errors.  Of a `constructor` that is no
    function, `plainToInstance` reads `prototype.constructor`. -/
def validateDtoSafe (dto : Dto) (raw : JsVal) : Except Failure (List DtoError) :=
  if raw.instantiates (some (dto.nested.map (·.1))) then .ok (dto.errors raw)
  else .error (typeError "constructor")

/-! ## Classes -/

/-- `@IsString() @IsNotEmpty()`. -/
def stringProperty (name : String) : Property := ⟨name, false, [.isNotEmpty, .isString]⟩

/-- `@IsNumber() @IsNotEmpty()`. -/
def numberProperty (name : String) : Property := ⟨name, false, [.isNotEmpty, .isNumber]⟩

/-- `@IsArray() @ArrayNotEmpty() @ValidateNested({ each: true })`. -/
def arrayProperty (name : String) : Property := ⟨name, false, [.arrayNotEmpty, .isArray]⟩

def SesiDto : List Property :=
  [stringProperty "time", stringProperty "audio",
    ⟨"days", false, [.isNotEmptyEach, .isStringEach, .arrayNotEmpty, .isArray]⟩,
    ⟨"ids", true, [.isString, .isArray]⟩]

def AudioDto : List Property := [stringProperty "id", stringProperty "label"]

/-- `TYPE_AUDIO`. -/
def TYPE_AUDIO : List String := ["audio/mpeg", "audio/wav"]

def ChangeModeDto : Dto := { properties := [stringProperty "mode"] }

def ScandDto : Dto := { properties := [stringProperty "mode", stringProperty "uid"] }

def CancelReservasiDto : Dto := { properties := [stringProperty "id", stringProperty "uid"] }

def GetAllReservasiDto : Dto := { properties := [stringProperty "uid"] }

def CreateSesiDto : Dto := { properties := SesiDto }

def DestroySesiDto : Dto := { properties := [stringProperty "time"] }

def SyncAlarmDto : Dto :=
  { properties := [arrayProperty "sesis"], nested := [("sesis", SesiDto)] }

def SendMetadataAudiosDto : Dto :=
  { properties := [arrayProperty "audios"], nested := [("audios", AudioDto)] }

def StartUploadDto : Dto :=
  { properties := [stringProperty "filename", numberProperty "size",
      ⟨"type", false, [.isIn TYPE_AUDIO, .isNotEmpty, .isString]⟩, numberProperty "totalChunks"] }

def EventAckDto : Dto :=
  { properties := [stringProperty "eventId", ⟨"message", true, [.isString]⟩] }

/-! ## What is accepted -/

/-- A property without errors meets its constraints, unless it is optional and missing. -/
theorem Property.errors_nil {path : String} {object : JsObj} {p : Property} :
    p.errors path object = [] ↔
      (p.optional && missing (OMap.find p.name object)) = true ∨
        ∀ c ∈ p.constraints, c.holds (OMap.find p.name object) = true := by
  by_cases h : (p.optional && missing (OMap.find p.name object)) = true <;>
    simp [Property.errors, h]

/-- An accepted payload is an object with declared properties, and such as are left out, each of
    which meets its constraints, and whose nested values are accepted. -/
theorem validateDtoSafe_nil {dto : Dto} {v : JsVal} :
    validateDtoSafe dto v = .ok [] ↔ v.instantiates (some (dto.nested.map (·.1))) = true ∧
      ∃ fields, v = .obj fields ∧
        (∀ f ∈ fields, f.1 ∈ dto.properties.map (·.name) ∨ f.1 ∈ inheritedNames) ∧
        (∀ p ∈ dto.properties, p.errors "" fields = []) ∧ dto.nestedErrors fields = [] := by
  unfold validateDtoSafe
  split_ifs with hinstance
  · cases v with
    | obj fields =>
      simp [hinstance, Dto.errors, flatErrors, whitelistErrors, List.flatMap_eq_nil_iff,
        or_iff_not_imp_left]
    | _ => simp [Dto.errors]
  · simp [hinstance]

/-- A payload accepted by a class has a non-empty string in each of its string properties. -/
theorem strField_of_valid {dto : Dto} {v : JsVal} {name : String}
    (hv : validateDtoSafe dto v = .ok []) (hp : stringProperty name ∈ dto.properties) :
    ∃ s, v.strField name = some s ∧ s ≠ "" := by
  obtain ⟨-, fields, rfl, -, hprops, -⟩ := validateDtoSafe_nil.1 hv
  rcases Property.errors_nil.1 (hprops _ hp) with hmiss | hc
  · simp [stringProperty] at hmiss
  · have hstr := hc .isString (by simp [stringProperty])
    have hne := hc .isNotEmpty (by simp [stringProperty])
    simp only [stringProperty, Constraint.holds] at hstr hne
    cases hfind : OMap.find name fields with
    | none => simp [hfind, Constraint.stringOk] at hstr
    | some w =>
      cases w with
      | str s => exact ⟨s, by simp [JsVal.strField, JsVal.field, hfind],
          by simpa [hfind, Constraint.notEmptyOk] using hne⟩
      | _ => simp [hfind, Constraint.stringOk] at hstr

end GatewayRealtime
