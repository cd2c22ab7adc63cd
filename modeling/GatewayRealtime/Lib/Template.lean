/-
  Texts with placeholders, and how they are filled in.

  A placeholder is what the expression of two opening braces, `.*?` and two closing braces
  matches: it ends at the next two closing braces, which have to be on the same line.

  * `Symbol`, `read`, `render`: a text as characters and holes, one for each placeholder.
  * `substitute`, `chars`: all holes are filled at once; the ones that are left are dropped.
  * `cut`, `fill`: one placeholder is filled by cutting the text at it and joining the parts.
  * `Undisturbed`: no pass of a sequence of such passes finds a placeholder in what an earlier one
    has filled in; `erase_passes`: then they do what `substitute` does.
  * `undisturbed_of_plain`: values without an opening brace disturb nothing.
  * `Bare`, `bare_erase`: erasing the placeholders leaves a text without placeholders.

  Nothing here knows what the texts are about.
-/
import Mathlib.Data.List.Basic
import Mathlib.Tactic.Common

namespace GatewayRealtime.Template

/-! ## Reading -/

/-- A character, or a hole for the value of a key. -/
inductive Symbol
  | char (c : Char)
  | hole (key : List Char)
deriving DecidableEq

/-- The placeholder of a key. -/
def placeholder (key : List Char) : List Char := '{' :: '{' :: (key ++ ['}', '}'])

def Symbol.text : Symbol → List Char
  | char c => [c]
  | hole key => placeholder key

def render (l : List Symbol) : List Char := l.flatMap Symbol.text

/-- What `.` does not match. -/
def isLineTerminator (c : Char) : Bool :=
  c = '\n' || c = '\r' || c.toNat = 0x2028 || c.toNat = 0x2029

/-- The text before the next two closing braces, if they are on the same line. -/
def untilClosed : List Char → Option (List Char)
  | [] => none
  | c :: cs =>
    if c = '}' ∧ cs.head? = some '}' then some []
    else if isLineTerminator c then none
    else (untilClosed cs).map (c :: ·)

/-- The key of the placeholder that the text begins with. -/
def holeAt : List Char → Option (List Char)
  | '{' :: '{' :: cs => untilClosed cs
  | _ => none

/-- Reads a text from left to right, after the first `n` characters. -/
def readFrom : ℕ → List Char → List Symbol
  | _, [] => []
  | n + 1, _ :: cs => readFrom n cs
  | 0, c :: cs =>
    match holeAt (c :: cs) with
    | some key => .hole key :: readFrom (key.length + 3) cs
    | none => .char c :: readFrom 0 cs

def read (t : List Char) : List Symbol := readFrom 0 t

/-- The characters; holes are dropped. -/
def chars (l : List Symbol) : List Char :=
  l.filterMap fun
    | .char c => some c
    | .hole _ => none

/-- The text without its placeholders. -/
def erase (t : List Char) : List Char := chars (read t)

/-- All holes are filled at once, if their key has a value. -/
def substitute (value : List Char → Option (List Char)) (l : List Symbol) : List Symbol :=
  l.flatMap fun
    | .char c => [.char c]
    | .hole key => (value key).elim [.hole key] fun v => v.map .char

/-! ## Passes -/

/-- `pre` is put before the first part. -/
def consHead (pre : List Char) : List (List Char) → List (List Char)
  | [] => [pre]
  | s :: parts => (pre ++ s) :: parts

/-- Cuts a text at each occurrence of `sep`, from left to right, after the first `n`
    characters. -/
def cutFrom (sep : List Char) : ℕ → List Char → List (List Char)
  | _, [] => [[]]
  | n + 1, _ :: cs => cutFrom sep n cs
  | 0, c :: cs =>
    if sep.isPrefixOf (c :: cs) then [] :: cutFrom sep (sep.length - 1) cs
    else consHead [c] (cutFrom sep 0 cs)

def cut (sep t : List Char) : List (List Char) := cutFrom sep 0 t

/-- The parts between the holes for a key. -/
def gaps (key : List Char) : List Symbol → List (List Char)
  | [] => [[]]
  | s :: l => if s = .hole key then [] :: gaps key l else consHead s.text (gaps key l)

/-- The holes for one key are filled. -/
def fill (key value : List Char) (l : List Symbol) : List Symbol :=
  l.flatMap fun s => if s = .hole key then value.map .char else [s]

/-- One pass: the placeholders of a key are replaced by its value. -/
def pass (t : List Char) (p : List Char × List Char) : List Char :=
  p.2.intercalate (cut (placeholder p.1) t)

/-- The holes of each key are filled, one key after the other. -/
def fillAll (passes : List (List Char × List Char)) (l : List Symbol) : List Symbol :=
  passes.foldl (fun l p => fill p.1 p.2 l) l

/-- Each pass finds its placeholder only where there is a hole for its key, and what is read in the
    end is what is left of the holes. -/
def Undisturbed : List Symbol → List (List Char × List Char) → Prop
  | l, [] => read (render l) = l
  | l, p :: passes =>
    cut (placeholder p.1) (render l) = gaps p.1 l ∧ Undisturbed (fill p.1 p.2 l) passes

instance Undisturbed.decidable : ∀ l passes, Decidable (Undisturbed l passes)
  | l, [] => inferInstanceAs (Decidable (read (render l) = l))
  | l, p :: passes =>
    have := Undisturbed.decidable (fill p.1 p.2 l) passes
    inferInstanceAs (Decidable (_ ∧ _))

section
variable {c : Char} {cs t key value : List Char} {l l' : List Symbol}
  {passes : List (List Char × List Char)}

@[simp] theorem render_nil : render [] = [] := rfl

@[simp] theorem render_cons (s : Symbol) (l : List Symbol) :
    render (s :: l) = s.text ++ render l := rfl

@[simp] theorem render_append (l l' : List Symbol) : render (l ++ l') = render l ++ render l' :=
  List.flatMap_append

@[simp] theorem render_map_char (t : List Char) : render (t.map .char) = t := by
  induction t with
  | nil => rfl
  | cons c t ih => simp [ih, Symbol.text]

@[simp] theorem chars_nil : chars [] = [] := rfl

@[simp] theorem chars_cons_char (c : Char) (l : List Symbol) :
    chars (.char c :: l) = c :: chars l := rfl

@[simp] theorem chars_cons_hole (key : List Char) (l : List Symbol) :
    chars (.hole key :: l) = chars l := rfl

@[simp] theorem chars_append (l l' : List Symbol) : chars (l ++ l') = chars l ++ chars l' :=
  List.filterMap_append

@[simp] theorem chars_map_char (t : List Char) : chars (t.map .char) = t := by
  induction t with
  | nil => rfl
  | cons c t ih => simp [ih]

@[simp] theorem fill_nil : fill key value [] = [] := rfl

@[simp] theorem fill_cons (key value : List Char) (s : Symbol) (l : List Symbol) :
    fill key value (s :: l) =
      (if s = .hole key then value.map .char else [s]) ++ fill key value l := rfl

@[simp] theorem fill_append (key value : List Char) (l l' : List Symbol) :
    fill key value (l ++ l') = fill key value l ++ fill key value l' :=
  List.flatMap_append

/-- Characters have no holes. -/
@[simp] theorem fill_map_char (key value t : List Char) :
    fill key value (t.map .char) = t.map .char := by
  induction t with
  | nil => rfl
  | cons c t ih => simp [ih]

/-! ## Joining -/

theorem intercalate_consHead (value pre : List Char) (parts : List (List Char)) :
    value.intercalate (consHead pre parts) = pre ++ value.intercalate parts := by
  cases parts with
  | nil => simp [consHead, List.intercalate]
  | cons s parts =>
    cases parts with
    | nil => simp [consHead]
    | cons s' parts => simp [consHead, List.intercalate_cons_cons]

theorem gaps_ne_nil (key : List Char) (l : List Symbol) : gaps key l ≠ [] := by
  cases l with
  | nil => simp [gaps]
  | cons s l =>
    rw [gaps]
    split_ifs
    · simp
    · cases gaps key l <;> simp [consHead]

/-- Joining the parts between the holes fills them. -/
theorem intercalate_gaps (key value : List Char) (l : List Symbol) :
    value.intercalate (gaps key l) = render (fill key value l) := by
  induction l with
  | nil => simp [gaps]
  | cons s l ih =>
    rw [gaps, fill_cons]
    split_ifs
    · obtain ⟨part, parts, hparts⟩ := List.exists_cons_of_ne_nil (gaps_ne_nil key l)
      rw [hparts, List.intercalate_cons_cons, ← hparts, ih]
      simp
    · rw [intercalate_consHead, ih]
      simp

/-- A pass that finds its placeholder where the holes are fills them. -/
theorem pass_of_cut {p : List Char × List Char}
    (h : cut (placeholder p.1) (render l) = gaps p.1 l) :
    pass (render l) p = render (fill p.1 p.2 l) := by
  rw [pass, h, intercalate_gaps]

/-- **Passes that do not disturb each other** fill the holes, and the ones that are left are
    dropped. -/
theorem erase_passes (h : Undisturbed l passes) :
    erase (passes.foldl pass (render l)) = chars (fillAll passes l) := by
  induction passes generalizing l with
  | nil => exact congrArg chars h
  | cons p passes ih =>
    obtain ⟨hcut, hrest⟩ := h
    rw [List.foldl_cons, pass_of_cut hcut]
    exact ih hrest

theorem gaps_of_notMem (h : .hole key ∉ l) : gaps key l = [render l] := by
  induction l with
  | nil => rfl
  | cons s l ih =>
    rw [List.mem_cons, not_or] at h
    rw [gaps, if_neg fun heq => h.1 heq.symm, ih h.2, consHead, render_cons]

/-! ## Reading loses nothing -/

theorem readFrom_eq_drop : ∀ (n : ℕ) (t : List Char), readFrom n t = read (t.drop n)
  | 0, _ => rfl
  | _ + 1, [] => rfl
  | n + 1, _ :: cs => readFrom_eq_drop n cs

theorem untilClosed_eq_some (h : untilClosed cs = some key) :
    ∃ rest, cs = key ++ '}' :: '}' :: rest := by
  induction cs generalizing key with
  | nil => cases h
  | cons c cs ih =>
    rw [untilClosed] at h
    split_ifs at h with hclosed
    · obtain ⟨rfl, hhead⟩ := hclosed
      cases h
      obtain ⟨rest, rfl⟩ := List.head?_eq_some_iff.1 hhead
      exact ⟨rest, rfl⟩
    · obtain ⟨key', hkey', rfl⟩ := Option.map_eq_some_iff.1 h
      obtain ⟨rest, rfl⟩ := ih hkey'
      exact ⟨rest, rfl⟩

theorem holeAt_eq_some (h : holeAt t = some key) : ∃ rest, t = placeholder key ++ rest := by
  unfold holeAt at h
  split at h
  · obtain ⟨rest, rfl⟩ := untilClosed_eq_some h
    exact ⟨rest, by simp [placeholder]⟩
  · cases h

theorem length_placeholder (key : List Char) : (placeholder key).length = key.length + 4 := by
  simp [placeholder]

/-- A text begins with a placeholder or with a character. -/
theorem read_cases (t : List Char) : t = [] ∨
    (∃ key rest, holeAt t = some key ∧ t = placeholder key ++ rest ∧
      read t = .hole key :: read rest) ∨
    ∃ c cs, holeAt t = none ∧ t = c :: cs ∧ read t = .char c :: read cs := by
  cases t with
  | nil => exact Or.inl rfl
  | cons c cs =>
    cases h : holeAt (c :: cs) with
    | none =>
      refine Or.inr (Or.inr ⟨c, cs, rfl, rfl, ?_⟩)
      rw [read, readFrom, h]
      rfl
    | some key =>
      obtain ⟨rest, hrest⟩ := holeAt_eq_some h
      refine Or.inr (Or.inl ⟨key, rest, rfl, hrest, ?_⟩)
      have htail : cs = '{' :: (key ++ ['}', '}']) ++ rest := (List.cons.inj hrest).2
      have hdrop : cs.drop (key.length + 3) = rest := by
        rw [htail]
        exact List.drop_left' (by simp)
      rw [read, readFrom, h]
      dsimp only
      rw [readFrom_eq_drop, hdrop]

/-- Induction along the reading of a text. -/
theorem read_induction {P : List Char → Prop} (nil : P [])
    (hole : ∀ key rest, holeAt (placeholder key ++ rest) = some key →
      read (placeholder key ++ rest) = .hole key :: read rest → P rest →
        P (placeholder key ++ rest))
    (char : ∀ c cs, holeAt (c :: cs) = none → read (c :: cs) = .char c :: read cs → P cs →
      P (c :: cs)) (t : List Char) : P t := by
  induction hn : t.length using Nat.strongRecOn generalizing t with
  | ind n ih =>
    subst hn
    obtain rfl | ⟨key, rest, hat, rfl, hread⟩ | ⟨c, cs, hat, rfl, hread⟩ := read_cases t
    · exact nil
    · have hlt : rest.length < (placeholder key ++ rest).length := by
        rw [List.length_append, length_placeholder]
        omega
      exact hole key rest hat hread (ih _ hlt rest rfl)
    · exact char c cs hat hread (ih _ (Nat.lt_succ_self _) cs rfl)

theorem render_read (t : List Char) : render (read t) = t := by
  induction t using read_induction with
  | nil => rfl
  | hole key rest _ hread ih => rw [hread, render_cons, Symbol.text, ih]
  | char c cs _ hread ih =>
    rw [hread, render_cons, Symbol.text, ih]
    rfl

/-! ## All holes at once -/

/-- The value of a key: that of the first pass for it. -/
def valueOf (passes : List (List Char × List Char)) (key : List Char) : Option (List Char) :=
  (passes.find? (·.1 = key)).map Prod.snd

theorem substitute_map_char (lookup : List Char → Option (List Char)) (t : List Char) :
    substitute lookup (t.map .char) = t.map .char := by
  induction t with
  | nil => rfl
  | cons c t ih =>
    rw [List.map_cons, substitute, List.flatMap_cons]
    exact congrArg (.char c :: ·) ih

theorem substitute_cons (lookup : List Char → Option (List Char)) (s : Symbol) (l : List Symbol) :
    substitute lookup (s :: l) = substitute lookup [s] ++ substitute lookup l := by
  simp [substitute]

/-- A hole without a value is dropped, as one with an empty value is. -/
theorem chars_substitute_congr {lookup lookup' : List Char → Option (List Char)}
    (h : ∀ key, (lookup key).getD [] = (lookup' key).getD []) :
    chars (substitute lookup l) = chars (substitute lookup' l) := by
  have hsymbol : ∀ s : Symbol, chars (substitute lookup [s]) = chars (substitute lookup' [s]) := by
    have hhole : ∀ (lookup : List Char → Option (List Char)) key,
        chars (substitute lookup [.hole key]) = (lookup key).getD [] := by
      intro lookup key
      cases hkey : lookup key <;> simp [substitute, hkey]
    rintro (c | key)
    · rfl
    · rw [hhole, hhole, h]
  induction l with
  | nil => rfl
  | cons s l ih =>
    rw [substitute_cons lookup, substitute_cons lookup', chars_append, chars_append, hsymbol, ih]

/-- A pass fills in one value. -/
theorem fill_eq_substitute (key value : List Char) (l : List Symbol) :
    fill key value l = substitute (fun key' => if key' = key then some value else none) l := by
  induction l with
  | nil => rfl
  | cons s l ih =>
    rw [fill_cons, substitute_cons, ih]
    cases s with
    | char c => rfl
    | hole key' => by_cases hkey : key' = key <;> simp [substitute, hkey]

theorem mem_of_hole_mem_fill {key' : List Char} (h : .hole key' ∈ fill key value l) :
    .hole key' ∈ l := by
  obtain ⟨s, hs, hmem⟩ := List.mem_flatMap.1 h
  split_ifs at hmem
  · simp at hmem
  · rwa [List.mem_singleton.1 hmem]

/-- What one pass fills in is not filled again. -/
theorem substitute_fill (p : List Char × List Char) (passes : List (List Char × List Char))
    (l : List Symbol) :
    substitute (valueOf passes) (fill p.1 p.2 l) = substitute (valueOf (p :: passes)) l := by
  induction l with
  | nil => rfl
  | cons s l ih =>
    have happend : ∀ l l', substitute (valueOf passes) (l ++ l') =
        substitute (valueOf passes) l ++ substitute (valueOf passes) l' :=
      fun _ _ => List.flatMap_append
    rw [fill_cons, happend, ih, substitute_cons (valueOf (p :: passes))]
    refine congrArg (· ++ _) ?_
    split_ifs with hs
    · subst hs
      rw [substitute_map_char]
      simp [substitute, valueOf]
    · cases s with
      | char c => rfl
      | hole key =>
        have hne : ¬ p.1 = key := fun h => hs (congrArg Symbol.hole h.symm)
        simp [substitute, valueOf, List.find?_cons, hne]

/-- One key after the other, or all at once. -/
theorem fillAll_eq_substitute (passes : List (List Char × List Char)) (l : List Symbol) :
    fillAll passes l = substitute (valueOf passes) l := by
  induction passes generalizing l with
  | nil =>
    have hsymbol : ∀ s : Symbol, substitute (valueOf []) [s] = [s] := by
      intro s
      cases s <;> simp [substitute, valueOf]
    induction l with
    | nil => rfl
    | cons s l ih =>
      rw [substitute_cons, hsymbol, ← ih]
      rfl
  | cons p passes ih => exact (ih (fill p.1 p.2 l)).trans (substitute_fill p passes l)

/-! ## Texts that are read back -/

theorem untilClosed_append (h : untilClosed cs = some key) (rest : List Char) :
    untilClosed (cs ++ rest) = some key := by
  induction cs generalizing key with
  | nil => cases h
  | cons c cs ih =>
    rw [untilClosed] at h
    rw [List.cons_append, untilClosed]
    split_ifs at h with hclosed hline
    · rw [if_pos ⟨hclosed.1, by simp [List.head?_append, hclosed.2]⟩, h]
    · obtain ⟨key', hkey', rfl⟩ := Option.map_eq_some_iff.1 h
      have hne : cs ≠ [] := by
        rintro rfl
        cases hkey'
      rw [List.head?_append_of_ne_nil _ hne, if_neg hclosed, if_neg hline, ih hkey', Option.map_some]

/-- The text behind a placeholder does not matter. -/
theorem untilClosed_congr {rest : List Char} (rest' : List Char)
    (h : untilClosed (key ++ '}' :: '}' :: rest) = some key) :
    untilClosed (key ++ '}' :: '}' :: rest') = some key := by
  induction key with
  | nil => simp [untilClosed]
  | cons c key ih =>
    rw [List.cons_append, untilClosed] at h ⊢
    split_ifs at h with hclosed hline
    · cases h
    have hhead : (key ++ '}' :: '}' :: rest').head? = (key ++ '}' :: '}' :: rest).head? := by
      cases key <;> rfl
    rw [hhead, if_neg hclosed, if_neg hline]
    have hrec : untilClosed (key ++ '}' :: '}' :: rest) = some key := by simpa using h
    rw [ih hrec, Option.map_some]

theorem holeAt_placeholder (key rest : List Char) :
    holeAt (placeholder key ++ rest) = untilClosed (key ++ '}' :: '}' :: rest) := by
  simp [placeholder, holeAt]

/-- A hole is on one line. -/
theorem untilClosed_of_holeAt (h : holeAt t = some key) :
    untilClosed t = some ('{' :: '{' :: key) := by
  unfold holeAt at h
  split at h
  · simp [untilClosed, isLineTerminator, h]
  · cases h

theorem holeAt_cons_of_ne (h : c ≠ '{') (cs : List Char) : holeAt (c :: cs) = none := by
  unfold holeAt
  split
  · rename_i heq
    exact absurd (List.cons.inj heq).1 h
  · rfl

theorem holeAt_cons_cons_of_ne {d : Char} (h : d ≠ '{') (cs : List Char) :
    holeAt (c :: d :: cs) = none := by
  unfold holeAt
  split
  · rename_i heq
    exact absurd (List.cons.inj (List.cons.inj heq).2).1 h
  · rfl

theorem read_char (h : holeAt (c :: cs) = none) : read (c :: cs) = .char c :: read cs := by
  rw [read, readFrom, h]
  rfl

theorem read_hole {rest : List Char} (h : holeAt (placeholder key ++ rest) = some key) :
    read (placeholder key ++ rest) = .hole key :: read rest := by
  obtain hnil | ⟨key', rest', hat, heq, hread⟩ | ⟨_, _, hat, -⟩ := read_cases (placeholder key ++ rest)
  · simp [placeholder] at hnil
  · obtain rfl : key = key' := Option.some.inj (h.symm.trans hat)
    rw [hread, List.append_cancel_left heq]
  · rw [h] at hat
    cases hat

theorem read_char_inv (h : read (render (.char c :: l)) = .char c :: l) :
    holeAt (c :: render l) = none ∧ read (render l) = l := by
  change read (c :: render l) = _ at h
  obtain hnil | ⟨_, _, -, -, hread⟩ | ⟨c', cs, hat, heq, hread⟩ := read_cases (c :: render l)
  · cases hnil
  · rw [hread] at h
    cases h
  · cases heq
    rw [hread] at h
    exact ⟨hat, (List.cons.inj h).2⟩

theorem read_hole_inv (h : read (render (.hole key :: l)) = .hole key :: l) :
    holeAt (placeholder key ++ render l) = some key ∧ read (render l) = l := by
  change read (placeholder key ++ render l) = _ at h
  obtain hnil | ⟨key', rest, hat, heq, hread⟩ | ⟨_, _, -, -, hread⟩ :=
    read_cases (placeholder key ++ render l)
  · simp [placeholder] at hnil
  · rw [hread] at h
    obtain ⟨hkey, hl⟩ := List.cons.inj h
    cases hkey
    rw [← List.append_cancel_left heq] at hl
    exact ⟨hat, hl⟩
  · rw [hread] at h
    cases h

/-- Characters that open nothing are read as such. -/
theorem read_append_of_notMem {v : List Char} (h : '{' ∉ v) (t : List Char) :
    read (v ++ t) = v.map .char ++ read t := by
  induction v with
  | nil => rfl
  | cons c v ih =>
    rw [List.mem_cons, not_or] at h
    rw [List.cons_append, read_char (holeAt_cons_of_ne (Ne.symm h.1) _), ih h.2]
    rfl

section
variable {lookup : List Char → Option (List Char)}

/-- What is not closed on its line stays so: there is no hole on it. -/
theorem untilClosed_substitute (hl : read (render l) = l) (h : untilClosed (render l) = none) :
    untilClosed (render (substitute lookup l)) = none := by
  induction l with
  | nil => rfl
  | cons s l ih =>
    cases s with
    | hole key =>
      rw [render_cons, Symbol.text, untilClosed_of_holeAt (read_hole_inv hl).1] at h
      cases h
    | char c =>
      have hrest := (read_char_inv hl).2
      rw [substitute_cons, render_append]
      change untilClosed (c :: render (substitute lookup l)) = none
      change untilClosed (c :: render l) = none at h
      rw [untilClosed] at h ⊢
      split_ifs at h with hclosed hline
      · have hc : c ≠ '}' := by
          rintro rfl
          cases hline
        rw [if_neg fun h => hc h.1, if_pos hline]
      · have hopen := Option.map_eq_none_iff.1 h
        have hsame : (render (substitute lookup l)).head? = (render l).head? := by
          cases l with
          | nil => rfl
          | cons s l =>
            cases s with
            | char d => rfl
            | hole key =>
              rw [render_cons, Symbol.text, untilClosed_of_holeAt (read_hole_inv hrest).1] at hopen
              cases hopen
        rw [hsame, if_neg hclosed, if_neg hline, ih hrest hopen, Option.map_none]

/-- **Values without an opening brace** do not change what is read. -/
theorem read_substitute (hl : read (render l) = l)
    (hvalues : ∀ key v, lookup key = some v → '{' ∉ v) :
    read (render (substitute lookup l)) = substitute lookup l := by
  induction l with
  | nil => rfl
  | cons s l ih =>
    rw [substitute_cons, render_append]
    cases s with
    | hole key =>
      obtain ⟨hat, hrest⟩ := read_hole_inv hl
      cases hkey : lookup key with
      | some v =>
        have hvalue : substitute lookup [.hole key] = v.map .char := by simp [substitute, hkey]
        rw [hvalue, render_map_char, read_append_of_notMem (hvalues key v hkey), ih hrest]
      | none =>
        have hvalue : substitute lookup [.hole key] = [.hole key] := by simp [substitute, hkey]
        rw [holeAt_placeholder] at hat
        have hat' := untilClosed_congr (render (substitute lookup l)) hat
        rw [← holeAt_placeholder] at hat'
        rw [hvalue, render_cons, Symbol.text, render_nil, List.append_nil, read_hole hat', ih hrest]
        rfl
    | char c =>
      obtain ⟨hat, hrest⟩ := read_char_inv hl
      have hat' : holeAt (c :: render (substitute lookup l)) = none := by
        by_cases hc : c = '{'
        · subst hc
          cases l with
          | nil => rfl
          | cons s l =>
            cases s with
            | hole key =>
              -- the brace would belong to the placeholder behind it
              have hkey := (read_hole_inv hrest).1
              rw [holeAt_placeholder] at hkey
              simp [placeholder, Symbol.text, holeAt, untilClosed, isLineTerminator, hkey] at hat
            | char d =>
              rw [substitute_cons, render_append]
              by_cases hd : d = '{'
              · subst hd
                exact untilClosed_substitute (read_char_inv hrest).2 hat
              · exact holeAt_cons_cons_of_ne hd _
        · exact holeAt_cons_of_ne hc _
      exact (read_char hat').trans (congrArg (.char c :: ·) (ih hrest))

end

/-! ## Texts without placeholders -/

/-- There is no placeholder in the text. -/
def Bare (t : List Char) : Prop := read t = t.map .char

theorem substitute_empty (l : List Symbol) :
    substitute (fun _ => some []) l = (chars l).map .char := by
  induction l with
  | nil => rfl
  | cons s l ih =>
    rw [substitute_cons, ih]
    cases s <;> rfl

/-- **No placeholder is left**: erasing some does not make a new one. -/
theorem bare_erase (t : List Char) : Bare (erase t) := by
  have hread : read (render (read t)) = read t := congrArg read (render_read t)
  have hempty : read (render (substitute (fun _ => some []) (read t))) =
      substitute (fun _ => some []) (read t) := read_substitute hread (by simp)
  rwa [substitute_empty, render_map_char] at hempty

theorem Bare.cons_inv (h : Bare (c :: t)) : holeAt (c :: t) = none ∧ Bare t := by
  have hread : read (render (.char c :: t.map .char)) = .char c :: t.map .char := by
    rw [render_cons, render_map_char]
    exact h
  have hinv := read_char_inv hread
  rwa [render_map_char] at hinv

theorem Bare.of_suffix {t' : List Char} (h : Bare t) (hsuffix : t' <:+ t) : Bare t' := by
  induction t with
  | nil =>
    rw [List.suffix_nil.1 hsuffix]
    rfl
  | cons c t ih =>
    rcases List.suffix_cons_iff.1 hsuffix with rfl | hsuffix
    · exact h
    · exact ih h.cons_inv.2 hsuffix

theorem Bare.of_append {rest : List Char} (h : Bare (t ++ rest)) : Bare t := by
  induction t with
  | nil => rfl
  | cons c t ih =>
    have hinv := h.cons_inv
    have hat : holeAt (c :: t) = none := by
      cases hkey : holeAt (c :: t) with
      | none => rfl
      | some key =>
        obtain ⟨behind, heq⟩ := holeAt_eq_some hkey
        rw [heq, holeAt_placeholder] at hkey
        have hlong := untilClosed_append hkey rest
        have hnone : holeAt (c :: t ++ rest) = none := hinv.1
        rw [heq, List.append_assoc, holeAt_placeholder] at hnone
        simp only [List.append_assoc, List.cons_append] at hlong
        rw [hnone] at hlong
        cases hlong
    exact (read_char hat).trans (congrArg (.char c :: ·) (ih hinv.2))

/-! ## Plain texts -/

theorem cutFrom_eq_drop (sep : List Char) : ∀ (n : ℕ) (t : List Char),
    cutFrom sep n t = cut sep (t.drop n)
  | 0, _ => rfl
  | _ + 1, [] => rfl
  | n + 1, _ :: cs => cutFrom_eq_drop sep n cs

theorem cut_append_self (sep : List Char) (hsep : sep ≠ []) (t : List Char) :
    cut sep (sep ++ t) = [] :: cut sep t := by
  obtain ⟨c, cs, rfl⟩ := List.exists_cons_of_ne_nil hsep
  have hinit : (c :: cs).isPrefixOf (c :: (cs ++ t)) = true :=
    List.isPrefixOf_iff_prefix.2 (List.prefix_append (c :: cs) t)
  change cutFrom (c :: cs) 0 (c :: (cs ++ t)) = _
  rw [cutFrom, if_pos hinit, cutFrom_eq_drop]
  simp

theorem cut_cons_of_mismatch {sep : List Char} (h : ¬ sep <+: c :: t) :
    cut sep (c :: t) = consHead [c] (cut sep t) := by
  rw [cut, cutFrom, if_neg fun hinit => h (List.isPrefixOf_iff_prefix.1 hinit)]
  rfl

theorem consHead_consHead (pre pre' : List Char) (parts : List (List Char)) :
    consHead pre (consHead pre' parts) = consHead (pre ++ pre') parts := by
  cases parts <;> simp [consHead]

/-- Text in which no occurrence begins stays in one part. -/
theorem cut_append_of_forall {sep pre rest : List Char}
    (h : ∀ s, s <:+ pre → s ≠ [] → ¬ sep <+: s ++ rest) (hpre : pre ≠ []) :
    cut sep (pre ++ rest) = consHead pre (cut sep rest) := by
  induction pre with
  | nil => exact absurd rfl hpre
  | cons c pre ih =>
    have hcons := h (c :: pre) List.suffix_rfl hpre
    refine (cut_cons_of_mismatch hcons).trans ?_
    cases pre with
    | nil => rfl
    | cons d pre =>
      have hrec := ih (fun s hs => h s (hs.trans (List.suffix_cons c _))) (List.cons_ne_nil d pre)
      exact (congrArg (consHead [c]) hrec).trans (consHead_consHead [c] (d :: pre) _)

/-- The placeholder of the key is read as what it is. -/
def PlainKey (key : List Char) : Prop := holeAt (placeholder key) = some key

instance (key : List Char) : Decidable (PlainKey key) :=
  inferInstanceAs (Decidable (_ = _))

theorem PlainKey.holeAt (h : PlainKey key) (rest : List Char) :
    holeAt (placeholder key ++ rest) = some key := by
  have hkey := holeAt_placeholder key []
  rw [List.append_nil, h] at hkey
  rw [holeAt_placeholder, untilClosed_congr rest hkey.symm]

/-- A pass finds its placeholder where the holes for its key are, unless a placeholder of the
    template has another one in it. -/
theorem cut_eq_gaps (hl : read (render l) = l) (hholes : ∀ key', .hole key' ∈ l → '{' ∉ key')
    (hkey : PlainKey key) : cut (placeholder key) (render l) = gaps key l := by
  induction l with
  | nil => rfl
  | cons s l ih =>
    have hholes' : ∀ key', .hole key' ∈ l → '{' ∉ key' :=
      fun key' h => hholes key' (List.mem_cons_of_mem _ h)
    cases s with
    | char c =>
      obtain ⟨hat, hrest⟩ := read_char_inv hl
      have hnot : ¬ placeholder key <+: c :: render l := by
        rintro ⟨rest, heq⟩
        rw [← heq, hkey.holeAt rest] at hat
        cases hat
      rw [gaps, if_neg (by simp), ← ih hrest hholes']
      exact cut_cons_of_mismatch hnot
    | hole key' =>
      obtain ⟨hat, hrest⟩ := read_hole_inv hl
      rw [gaps, render_cons, Symbol.text, ← ih hrest hholes']
      split_ifs with hsame
      · cases hsame
        exact cut_append_self _ (by simp [placeholder]) _
      · refine cut_append_of_forall (fun s hs hne => ?_) (by simp [placeholder])
        rintro ⟨rest, heq⟩
        have hbrace : '{' ∉ key' := hholes key' List.mem_cons_self
        rcases List.suffix_cons_iff.1 hs with rfl | hs
        · change placeholder key ++ rest = placeholder key' ++ render l at heq
          rw [← heq, hkey.holeAt rest] at hat
          exact hsame (congrArg Symbol.hole (Option.some.inj hat).symm)
        · rcases List.suffix_cons_iff.1 hs with rfl | hs
          · cases key' <;> simp_all [placeholder]
          · obtain ⟨c, s, rfl⟩ := List.exists_cons_of_ne_nil hne
            have hc := hs.subset List.mem_cons_self
            have heq' : '{' = c := (List.cons.inj heq).1
            rw [← heq'] at hc
            simp [hbrace] at hc

/-- **Plain passes do not disturb each other**: no placeholder of the template has another one in
    it, the keys are plain, and no value has an opening brace. -/
theorem undisturbed_of_plain (hl : read (render l) = l)
    (hholes : ∀ key, .hole key ∈ l → '{' ∉ key)
    (hkeys : ∀ p ∈ passes, PlainKey p.1) (hvalues : ∀ p ∈ passes, '{' ∉ p.2) :
    Undisturbed l passes := by
  induction passes generalizing l with
  | nil => exact hl
  | cons p passes ih =>
    rw [List.forall_mem_cons] at hkeys hvalues
    refine ⟨cut_eq_gaps hl hholes hkeys.1, ih ?_ (fun key hkey => ?_) hkeys.2 hvalues.2⟩
    · rw [fill_eq_substitute]
      refine read_substitute hl fun key v hv => ?_
      split_ifs at hv
      exact Option.some.inj hv ▸ hvalues.1
    · exact hholes key (mem_of_hole_mem_fill hkey)

end

end GatewayRealtime.Template
