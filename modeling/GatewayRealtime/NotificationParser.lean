/-
  The texts of notifications (`helpers/parser.helper.ts`).

  * `NotificationParser.parse`: the template with the name, then one pass for each property of the
    context and the metadata, then an expression that erases the placeholders that are left.
  * `NotificationParser.reference`: all placeholders are filled in at once.
  * `NotificationParser.Undisturbed`, `parse_eq_reference`: when both agree.
  * `Plain.undisturbed`: they do when every key is one that a placeholder can have, no value has an
    opening brace in it, and the name has no pattern of `String.replace`.
  * `bare_parse`, `parse_ne_reference`: they differ when the expected text has a placeholder in it.
-/
import GatewayRealtime.Lib.OrderedMap
import GatewayRealtime.Lib.ParseInt
import GatewayRealtime.Lib.Template
import Mathlib.Data.List.DropRight
import Mathlib.Data.List.Sort

namespace GatewayRealtime

open Template

/-- A row of `template_contents`. -/
structure TemplateContentEntity where
  content_value : Option String
  sort_order : Option ℤ

/-! ## Strings and objects -/

/-- `t.trim()`. -/
def trim (t : List Char) : List Char := (t.dropWhile isJsSpace).rdropWhile isJsSpace

/-- The back quote and the single quote. -/
def backQuote : Char := Char.ofNat 0x60
def singleQuote : Char := Char.ofNat 0x27

/-- The replacement text of a match, which has no groups: `$$`, `$&` and a `$` before a back quote
    or a single quote stand for `$`, the match and the texts before and behind it. -/
def getSubstitution (found before behind : List Char) : List Char → List Char
  | [] => []
  | c :: cs =>
    if c = '$' then
      match cs with
      | [] => ['$']
      | d :: ds =>
        if d = '$' then '$' :: getSubstitution found before behind ds
        else if d = '&' then found ++ getSubstitution found before behind ds
        else if d = backQuote then before ++ getSubstitution found before behind ds
        else if d = singleQuote then behind ++ getSubstitution found before behind ds
        else '$' :: getSubstitution found before behind (d :: ds)
    else c :: getSubstitution found before behind cs

/-- The parts of a text that was cut at the matches, with what each match is replaced by. -/
def replaceParts (found replacement : List Char) : List Char → List (List Char) → List Char
  | _, [] => []
  | _, [part] => part
  | before, part :: parts =>
    part ++ getSubstitution found (before ++ part) (found.intercalate parts) replacement ++
      replaceParts found replacement (before ++ part ++ found) parts

/-- `t.replace(re, replacement)`, where the global expression `re` matches the text `found`. -/
def replaceAll (found replacement t : List Char) : List Char :=
  replaceParts found replacement [] (cut found t)

/-- `{ ...base, ...extra }`. -/
def OMap.spread {α : Type} (base extra : OMap String α) : OMap String α :=
  extra.entries.foldl (fun o e => o.set e.1 e.2) base

/-- The number of a property whose name is an array index: a number below `2 ^ 32 - 1`. -/
def arrayIndex (key : String) : Option ℕ :=
  (parseDigits 10 key.toList).filter fun n => key = toString n ∧ n < 4294967295

/-- `Object.keys(o)`: array indices first, in ascending order. -/
def ownKeys {α : Type} (o : OMap String α) : List String :=
  (o.keys.filter fun key => (arrayIndex key).isSome).insertionSort
      (fun a b => (arrayIndex a).getD 0 ≤ (arrayIndex b).getD 0) ++
    o.keys.filter fun key => (arrayIndex key).isNone

namespace NotificationParser

-- the properties of an object have values of any type, `none` stands for `null` and `undefined`,
-- and `str` is `String`
variable {V : Type} (str : V → String)

/-- `value !== null && value !== undefined ? String(value) : ''`. -/
def valueText (value : Option V) : List Char := (value.elim "" str).toList

/-- The joined contents, by `sort_order`. -/
def template (contents : List TemplateContentEntity) : List Char :=
  ((contents.insertionSort fun a b => a.sort_order.getD 0 ≤ b.sort_order.getD 0).map fun c =>
    (c.content_value.getD "").toList).flatten

/-- `allData`. -/
def allData (context : OMap String (Option V)) (metadata : Option (OMap String (Option V))) :
    OMap String (Option V) :=
  context.spread (metadata.getD OMap.empty)

/-- The key of the name. -/
def nama : List Char := "nama".toList

/-- `parse`. -/
def parse (contents : List TemplateContentEntity) (context : OMap String (Option V))
    (studentName : String) (metadata : Option (OMap String (Option V))) : String :=
  if contents.isEmpty then ""
  else
    let fullText := replaceAll (placeholder nama) studentName.toList (template contents)
    let data := allData context metadata
    let filled := (ownKeys data).foldl (fun fullText key =>
      pass fullText (key.toList, valueText str (data.get? key).join)) fullText
    String.ofList (trim (erase filled))

/-! ## The reference -/

/-- The value of a placeholder; unknown ones have none. -/
def keyValue (context : OMap String (Option V)) (studentName : String)
    (metadata : Option (OMap String (Option V))) (key : List Char) : List Char :=
  if key = nama then studentName.toList
  else
    match metadata.bind (·.get? (String.ofList key)) with
    | some value => valueText str value
    | none => valueText str (context.get? (String.ofList key)).join

/-- All placeholders of the template are replaced by their values, in one reading. -/
def reference (contents : List TemplateContentEntity) (context : OMap String (Option V))
    (studentName : String) (metadata : Option (OMap String (Option V))) : String :=
  String.ofList (trim (chars (substitute (fun key => some (keyValue str context studentName
    metadata key)) (read (template contents)))))

/-- A `$` of the name is followed by what `replace` understands. -/
def hasPattern (name : List Char) : Bool :=
  (name.zip name.tail).any fun p =>
    p.1 = '$' && [ '$', '&', backQuote, singleQuote].contains p.2

/-- The passes, in the order of the code. -/
def passes (context : OMap String (Option V)) (studentName : String)
    (metadata : Option (OMap String (Option V))) : List (List Char × List Char) :=
  (nama, studentName.toList) :: (ownKeys (allData context metadata)).map fun key =>
    (key.toList, valueText str ((allData context metadata).get? key).join)

/-- **No pass meets a value.**  The name is no pattern, if it is asked for; and each pass finds its
    placeholder only where the template has it. -/
structure Undisturbed (contents : List TemplateContentEntity) (context : OMap String (Option V))
    (studentName : String) (metadata : Option (OMap String (Option V))) : Prop where
  name : Symbol.hole nama ∈ read (template contents) → hasPattern studentName.toList = false
  passes : Template.Undisturbed (read (template contents))
    (passes str context studentName metadata)

section
variable {str} {contents : List TemplateContentEntity} {context : OMap String (Option V)}
  {studentName : String} {metadata : Option (OMap String (Option V))}
  {found before behind replacement : List Char}

/-! ## Literal replacement -/

theorem getSubstitution_of_literal (h : hasPattern replacement = false) :
    getSubstitution found before behind replacement = replacement := by
  induction replacement with
  | nil => rfl
  | cons c cs ih =>
    cases cs with
    | nil =>
      rw [getSubstitution]
      split_ifs with hc
      · rw [hc]
      · rfl
    | cons d ds =>
      simp only [hasPattern, List.tail_cons, List.zip_cons_cons, List.any_cons,
        Bool.or_eq_false_iff] at h
      have hrest := ih h.2
      rw [getSubstitution]
      by_cases hc : c = '$'
      · have hplain := h.1
        simp only [hc, List.contains_cons, List.contains_nil, decide_true, Bool.true_and,
          Bool.or_eq_false_iff, beq_eq_false_iff_ne] at hplain
        obtain ⟨hdollar, hfound, hbefore, hbehind, -⟩ := hplain
        rw [if_pos hc, if_neg hdollar, if_neg hfound, if_neg hbefore, if_neg hbehind, hrest, hc]
      · rw [if_neg hc, hrest]

theorem replaceParts_of_literal
    (h : ∀ before behind, getSubstitution found before behind replacement = replacement) :
    ∀ (parts : List (List Char)) (before : List Char),
      replaceParts found replacement before parts = replacement.intercalate parts
  | [], _ => rfl
  | [part], _ => by simp [replaceParts]
  | part :: part' :: parts, before => by
    rw [replaceParts, h, replaceParts_of_literal h (part' :: parts), List.intercalate_cons_cons]
    simp

/-- With a name that is no pattern, or that nobody asks for, the first pass is one like the
    others. -/
theorem replaceAll_eq_pass (h : Undisturbed str contents context studentName metadata) :
    replaceAll (placeholder nama) studentName.toList (template contents) =
      pass (template contents) (nama, studentName.toList) := by
  have hcut := h.passes.1
  rw [render_read] at hcut
  by_cases hmem : Symbol.hole nama ∈ read (template contents)
  · exact replaceParts_of_literal (fun _ _ => getSubstitution_of_literal (h.name hmem)) _ []
  · rw [gaps_of_notMem hmem] at hcut
    rw [replaceAll, Template.pass, hcut]
    simp [replaceParts]

/-! ## The properties -/

omit str in
theorem get?_foldl_set {α : Type} (key : String) : ∀ (l : List (String × α)) (o : OMap String α),
    (l.map Prod.fst).Nodup →
      (l.foldl (fun o e => o.set e.1 e.2) o).get? key = (OMap.find key l).or (o.get? key)
  | [], _, _ => rfl
  | e :: l, o, h => by
    obtain ⟨hnot, hnodup⟩ := List.nodup_cons.1 h
    rw [List.foldl_cons, get?_foldl_set key l _ hnodup, OMap.get?_set, OMap.find]
    by_cases hkey : e.1 = key
    · have hnone : OMap.find key l = none := by
        rw [← Option.not_isSome_iff_eq_none, OMap.find_isSome_iff, ← hkey]
        exact hnot
      simp [hkey, hnone]
    · rw [if_neg hkey, if_neg fun heq => hkey heq.symm]

/-- The later object overrides the earlier one. -/
theorem get?_spread {α : Type} (base extra : OMap String α) (key : String) :
    (base.spread extra).get? key = (extra.get? key).or (base.get? key) :=
  get?_foldl_set key extra.entries base extra.nodup

theorem mem_ownKeys {α : Type} {o : OMap String α} {key : String} :
    key ∈ ownKeys o ↔ ∃ a, o.get? key = some a := by
  rw [← OMap.mem_keys, ownKeys, List.mem_append, List.mem_insertionSort, List.mem_filter,
    List.mem_filter]
  cases arrayIndex key <;> simp

/-- The values of the passes are those of the reference. -/
theorem valueOf_passes (str : V → String) (context : OMap String (Option V)) (studentName : String)
    (metadata : Option (OMap String (Option V))) (key : List Char) :
    (valueOf (passes str context studentName metadata) key).getD [] =
      keyValue str context studentName metadata key := by
  unfold valueOf passes keyValue
  by_cases hname : key = nama
  · simp [hname]
  · have hname' : ¬ nama = key := fun h => hname h.symm
    have hdata : (allData context metadata).get? (String.ofList key) =
        (metadata.bind (·.get? (String.ofList key))).or (context.get? (String.ofList key)) := by
      rw [allData, get?_spread]
      cases metadata <;> rfl
    rw [List.find?_cons_of_neg (by simpa using hname'), if_neg hname]
    cases hfind : ((ownKeys (allData context metadata)).map fun key =>
      (key.toList, valueText str ((allData context metadata).get? key).join)).find?
        (·.1 = key) with
    | none =>
      have hnone : (allData context metadata).get? (String.ofList key) = none := by
        by_contra hsome
        obtain ⟨a, ha⟩ := Option.ne_none_iff_exists'.1 hsome
        have hpass := List.find?_eq_none.1 hfind _ (List.mem_map_of_mem (mem_ownKeys.2 ⟨a, ha⟩))
        simp at hpass
      rw [hnone] at hdata
      obtain ⟨hmetadata, hcontext⟩ := Option.or_eq_none_iff.1 hdata.symm
      simp [hmetadata, hcontext, valueText]
    | some p =>
      obtain ⟨key', -, rfl⟩ := List.mem_map.1 (List.mem_of_find?_eq_some hfind)
      have hkey : key'.toList = key := by simpa using List.find?_some hfind
      have hkey' : key' = String.ofList key := by rw [← hkey, String.ofList_toList]
      rw [Option.map_some, Option.getD_some, hkey', hdata]
      cases metadata.bind (·.get? (String.ofList key)) <;> rfl

/-- **Where the parser does what it is to do.**  If no pass meets a value, `parse` is the
    simultaneous substitution. -/
theorem parse_eq_reference (h : Undisturbed str contents context studentName metadata) :
    parse str contents context studentName metadata =
      reference str contents context studentName metadata := by
  have hparse : erase ((passes str context studentName metadata).foldl pass (template contents)) =
      chars (substitute (fun key => some (keyValue str context studentName metadata key))
        (read (template contents))) := by
    have herase := erase_passes h.passes
    rw [render_read, fillAll_eq_substitute] at herase
    rw [herase]
    exact chars_substitute_congr fun key => valueOf_passes str context studentName metadata key
  by_cases hempty : contents = []
  · subst hempty
    rfl
  · rw [passes, List.foldl_cons, List.foldl_map, ← replaceAll_eq_pass h] at hparse
    rw [parse, if_neg (by simpa using hempty), reference, ← hparse]

end

/-! ## What a value must not have -/

section
variable (contents : List TemplateContentEntity) (context : OMap String (Option V))
  (studentName : String) (metadata : Option (OMap String (Option V)))

/-- **No placeholder is left in a text that the parser returns.** -/
theorem bare_parse : Bare (parse str contents context studentName metadata).toList := by
  have htrim : ∀ t, Bare t → Bare (trim t) := by
    intro t ht
    obtain ⟨rest, hrest⟩ := List.rdropWhile_prefix isJsSpace (t.dropWhile isJsSpace)
    have hbare := ht.of_suffix (List.dropWhile_suffix isJsSpace)
    rw [← hrest] at hbare
    exact hbare.of_append
  rw [parse]
  split_ifs with hempty
  · rfl
  · rw [String.toList_ofList]
    exact htrim _ (bare_erase _)

/-- So it is wrong wherever there is one in the text that it should return. -/
theorem parse_ne_reference
    (h : ¬ Bare (reference str contents context studentName metadata).toList) :
    parse str contents context studentName metadata ≠
      reference str contents context studentName metadata := by
  intro heq
  rw [← heq] at h
  exact h (bare_parse str contents context studentName metadata)

/-- No placeholder of the template has another one in it, the names of the properties are plain,
    and no value has an opening brace. -/
structure Plain : Prop where
  holes : ∀ key, Symbol.hole key ∈ read (template contents) → '{' ∉ key
  keys : ∀ key ∈ ownKeys (allData context metadata), PlainKey key.toList
  name : '{' ∉ studentName.toList ∧
    (Symbol.hole nama ∈ read (template contents) → hasPattern studentName.toList = false)
  values : ∀ key ∈ ownKeys (allData context metadata),
    '{' ∉ valueText str ((allData context metadata).get? key).join

/-- Plain texts are what the parser can do. -/
theorem Plain.undisturbed (h : Plain str contents context studentName metadata) :
    Undisturbed str contents context studentName metadata where
  name := h.name.2
  passes := by
    refine undisturbed_of_plain (congrArg read (render_read _)) h.holes ?_ ?_
    · rw [passes, List.forall_mem_cons]
      refine ⟨rfl, fun p hp => ?_⟩
      obtain ⟨key, hkey, rfl⟩ := List.mem_map.1 hp
      exact h.keys key hkey
    · rw [passes, List.forall_mem_cons]
      refine ⟨h.name.1, fun p hp => ?_⟩
      obtain ⟨key, hkey, rfl⟩ := List.mem_map.1 hp
      exact h.values key hkey

end

/-! ## A greeting -/

/-- A greeting by name, with the card that was read. -/
def greeting : List TemplateContentEntity :=
  [⟨some (String.ofList (", UID ".toList ++ placeholder "uid".toList)), some 2⟩,
    ⟨some (String.ofList ("Halo ".toList ++ placeholder nama)), some 1⟩]

def scanned : OMap String (Option String) := OMap.empty.set "uid" (some "7")

theorem parse_eq_reference_greeting :
    parse id greeting scanned "Budi" none = reference id greeting scanned "Budi" none :=
  parse_eq_reference ⟨fun _ => by decide +kernel, by decide +kernel⟩

/-- A name that is a placeholder is replaced by what the context has for it. -/
theorem greeting_disturbed :
    parse id greeting scanned (String.ofList (placeholder "uid".toList)) none = "Halo 7, UID 7" ∧
      parse id greeting scanned (String.ofList (placeholder "uid".toList)) none ≠
        reference id greeting scanned (String.ofList (placeholder "uid".toList)) none := by
  decide +kernel

end NotificationParser

end GatewayRealtime
