/-
  The text of a mail without its markup (`chanels/mail.chanel.ts`).

  * `breakTag`, `tag`, `blankLines`: the three expressions of `MailChannel.send`.
  * `plainText`: what it makes of the body of a mail.
  * `outside`: what stands outside of the tags, in one reading.
  * `rewrite_tag`: the second expression erases what a reading takes for tags.
  * `plainText_spec`: no tag is left, a plain text stays as it is, and what can be read outside of
    the tags is kept in its order; nothing of it is lost if no tag begins within another one.
-/
import GatewayRealtime.Lib.Rewrite
import GatewayRealtime.NotificationParser

namespace GatewayRealtime

namespace PlainText

/-! ## The expressions -/

/-- A word, in lower or upper case. -/
def wordAt (word t : List Char) : Option ℕ :=
  if (t.take word.length).map Char.toLower = word then some word.length else none

/-- `<br\s*\/?>`. -/
def brAt (t : List Char) : Option ℕ :=
  (wordAt ['<', 'b', 'r'] t).bind fun n =>
    let spaces := (t.drop n).takeWhile isJsSpace
    match (t.drop n).dropWhile isJsSpace with
    | '/' :: '>' :: _ => some (n + spaces.length + 2)
    | '>' :: _ => some (n + spaces.length + 1)
    | _ => none

/-- `<\/p>|<br\s*\/?>|<\/div>`. -/
def breakTagAt (t : List Char) : Option ℕ :=
  (wordAt ['<', '/', 'p', '>'] t).or ((brAt t).or (wordAt ['<', '/', 'd', 'i', 'v', '>'] t))

/-- `<[^>]*>?`. -/
def tagAt : List Char → Option ℕ
  | '<' :: l => some ((l.takeWhile (· ≠ '>')).length + if '>' ∈ l then 2 else 1)
  | _ => none

/-- `\n\s*\n`: up to the last line break of the white space. -/
def blankLinesAt : List Char → Option ℕ
  | '\n' :: l =>
    match (l.takeWhile isJsSpace).rdropWhile (· ≠ '\n') with
    | [] => none
    | c :: cs => some ((c :: cs).length + 1)
  | _ => none

section
variable {c d : Char} {t l word : List Char} {n : ℕ}

/-! ## What they match -/

/-- Only letters change their case. -/
theorem eq_of_toLower (hd : d.toNat < 97 ∨ 122 < d.toNat) (h : c.toLower = d) : c = d := by
  unfold Char.toLower at h
  split at h
  · rename_i hupper
    exfalso
    have hval : (c.val + ('a'.val - 'A'.val)).toNat = d.toNat :=
      congrArg (fun c : Char => c.val.toNat) h
    have hlower : 65 ≤ c.val.toNat := hupper.1
    have hupper : c.val.toNat ≤ 90 := hupper.2
    have hcase : ('a'.val - 'A'.val).toNat = 32 := by decide
    rw [UInt32.toNat_add, hcase] at hval
    omega
  · exact h

/-- What is between the brackets of a tag has no bracket. -/
def Unbracketed (t : List Char) : Prop := '<' ∉ t ∧ '>' ∉ t

theorem Unbracketed.append {t' : List Char} (h : Unbracketed t) (h' : Unbracketed t') :
    Unbracketed (t ++ t') := by
  simp [Unbracketed, h.1, h.2, h'.1, h'.2]

theorem unbracketed_of_toLower (h : Unbracketed (t.map Char.toLower)) : Unbracketed t :=
  ⟨fun hmem => h.1 (List.mem_map.2 ⟨_, hmem, by decide⟩),
    fun hmem => h.2 (List.mem_map.2 ⟨_, hmem, by decide⟩)⟩

theorem unbracketed_of_space (h : ∀ c ∈ t, isJsSpace c = true) : Unbracketed t :=
  ⟨fun hmem => absurd (h _ hmem) (by decide), fun hmem => absurd (h _ hmem) (by decide)⟩

theorem wordAt_some (h : wordAt word t = some n) :
    n = word.length ∧ ∃ found rest, t = found ++ rest ∧ found.map Char.toLower = word := by
  unfold wordAt at h
  split_ifs at h with hword
  cases h
  exact ⟨rfl, _, _, (List.take_append_drop word.length t).symm, hword⟩

/-- A tag that is a word. -/
theorem wordAt_tag (inner : List Char) (hinner : Unbracketed inner)
    (h : wordAt ('<' :: (inner ++ ['>'])) t = some n) :
    ∃ body rest, t = '<' :: (body ++ '>' :: rest) ∧ n = body.length + 2 ∧ Unbracketed body := by
  obtain ⟨rfl, found, rest, rfl, hword⟩ := wordAt_some h
  obtain ⟨c, found, rfl, hc, hrest⟩ := List.map_eq_cons_iff.1 hword
  obtain ⟨body, last, rfl, hbody, hlast⟩ := List.map_eq_append_iff.1 hrest
  obtain ⟨d, last, rfl, hd, hnil⟩ := List.map_eq_cons_iff.1 hlast
  obtain rfl := List.map_eq_nil_iff.1 hnil
  obtain rfl := eq_of_toLower (by decide) hc
  obtain rfl := eq_of_toLower (by decide) hd
  refine ⟨body, rest, by simp, ?_, unbracketed_of_toLower (hbody ▸ hinner)⟩
  rw [← hbody]
  simp

theorem brAt_tag (h : brAt t = some n) :
    ∃ body rest, t = '<' :: (body ++ '>' :: rest) ∧ n = body.length + 2 ∧ Unbracketed body := by
  obtain ⟨k, hword, h⟩ := Option.bind_eq_some_iff.1 h
  obtain ⟨rfl, found, rest, rfl, hfound⟩ := wordAt_some hword
  have hlength : found.length = ['<', 'b', 'r'].length := by rw [← hfound, List.length_map]
  obtain ⟨c, br, rfl, hc, hbr⟩ := List.map_eq_cons_iff.1 hfound
  obtain rfl := eq_of_toLower (by decide) hc
  have hdrop : ('<' :: br ++ rest).drop ['<', 'b', 'r'].length = rest := by
    rw [← hlength, List.drop_left]
  have hunbracketed : Unbracketed (br ++ rest.takeWhile isJsSpace) := by
    refine (unbracketed_of_toLower ?_).append
      (unbracketed_of_space fun c hc => List.mem_takeWhile_imp hc)
    rw [hbr]
    exact ⟨by decide, by decide⟩
  have hsize : br.length = 2 := by simpa using hlength
  dsimp only at h
  rw [hdrop] at h
  have hsplit := List.takeWhile_append_dropWhile (p := isJsSpace) (l := rest)
  split at h
  · rename_i rest' hrest
    cases h
    rw [hrest] at hsplit
    refine ⟨br ++ rest.takeWhile isJsSpace ++ ['/'], rest', ?_, ?_,
      hunbracketed.append ⟨by decide, by decide⟩⟩
    · conv_lhs => rw [← hsplit]
      simp
    · simp [hsize]
      omega
  · rename_i rest' hrest
    cases h
    rw [hrest] at hsplit
    refine ⟨br ++ rest.takeWhile isJsSpace, rest', ?_, ?_, hunbracketed⟩
    · conv_lhs => rw [← hsplit]
      simp
    · simp [hsize]
      omega
  · cases h

theorem breakTagAt_some (h : breakTagAt t = some n) :
    ∃ body rest, t = '<' :: (body ++ '>' :: rest) ∧ n = body.length + 2 ∧ Unbracketed body := by
  rcases Option.or_eq_some_iff.1 h with hp | ⟨-, h⟩
  · exact wordAt_tag ['/', 'p'] ⟨by decide, by decide⟩ hp
  · rcases Option.or_eq_some_iff.1 h with hbr | ⟨-, hdiv⟩
    · exact brAt_tag hbr
    · exact wordAt_tag ['/', 'd', 'i', 'v'] ⟨by decide, by decide⟩ hdiv

theorem tagAt_some (h : tagAt t = some n) :
    ∃ body, '>' ∉ body ∧ ((∃ rest, t = '<' :: (body ++ '>' :: rest) ∧ n = body.length + 2) ∨
      t = '<' :: body ∧ n = body.length + 1) := by
  unfold tagAt at h
  split at h
  · rename_i l
    have hbody : '>' ∉ l.takeWhile (· ≠ '>') := fun hmem => by
      simpa using List.mem_takeWhile_imp hmem
    refine ⟨l.takeWhile (· ≠ '>'), hbody, ?_⟩
    split_ifs at h with hclosed
    · cases h
      refine Or.inl ⟨(l.dropWhile (· ≠ '>')).tail, ?_, rfl⟩
      have hne : l.dropWhile (· ≠ '>') ≠ [] := by
        rw [ne_eq, List.dropWhile_eq_nil_iff]
        exact fun hall => by simpa using hall _ hclosed
      have hhead : (l.dropWhile (· ≠ '>')).head hne = '>' := by
        simpa using List.head_dropWhile_not (· ≠ '>') hne
      have hcons := List.cons_head_tail hne
      rw [hhead] at hcons
      rw [hcons, List.takeWhile_append_dropWhile]
    · cases h
      refine Or.inr ⟨?_, rfl⟩
      have hall : l.takeWhile (· ≠ '>') = l := List.takeWhile_eq_self_iff.2 fun c hc =>
        decide_eq_true fun heq => hclosed (heq ▸ hc)
      rw [hall]
  · cases h

theorem takeWhile_dropWhile (p : Char → Bool) (l : List Char) :
    (l.dropWhile p).takeWhile p = [] := by
  cases h : l.dropWhile p with
  | nil => rfl
  | cons c l' =>
    have hne : l.dropWhile p ≠ [] := by simp [h]
    have hc := List.head_dropWhile_not p hne
    simp only [h, List.head_cons] at hc
    rw [List.takeWhile_cons_of_neg (by simp [hc])]

theorem blankLinesAt_none :
    blankLinesAt ('\n' :: l) = none ↔ '\n' ∉ l.takeWhile isJsSpace := by
  rw [blankLinesAt]
  split
  · rename_i hnil
    rw [List.rdropWhile_eq_nil_iff] at hnil
    refine iff_of_true rfl fun hmem => ?_
    have hne := hnil _ hmem
    simp at hne
  · rename_i c cs hcons
    refine iff_of_false (by simp) fun hnot => ?_
    have hnil : (l.takeWhile isJsSpace).rdropWhile (· ≠ '\n') = [] := by
      rw [List.rdropWhile_eq_nil_iff]
      exact fun x hx => decide_eq_true fun heq : x = '\n' => hnot (heq ▸ hx)
    rw [hnil] at hcons
    cases hcons

theorem blankLinesAt_some (h : blankLinesAt t = some n) :
    ∃ mid rest, t = '\n' :: (mid ++ '\n' :: rest) ∧ n = mid.length + 2 ∧
      (∀ c ∈ mid, isJsSpace c = true) ∧ '\n' ∉ rest.takeWhile isJsSpace := by
  unfold blankLinesAt at h
  split at h
  · rename_i l
    split at h
    · cases h
    · rename_i c cs hkept
      cases h
      have hne : (l.takeWhile isJsSpace).rdropWhile (· ≠ '\n') ≠ [] := by
        rw [hkept]
        exact List.cons_ne_nil c cs
      have hlast : ((l.takeWhile isJsSpace).rdropWhile (· ≠ '\n')).getLast hne = '\n' := by
        simpa using List.rdropWhile_last_not (· ≠ '\n') (l.takeWhile isJsSpace) hne
      have hends := List.dropLast_append_getLast hne
      rw [hlast] at hends
      have hspaces : (l.takeWhile isJsSpace).rdropWhile (· ≠ '\n') ++
          (l.takeWhile isJsSpace).rtakeWhile (· ≠ '\n') = l.takeWhile isJsSpace :=
        List.rdropWhile_append_rtakeWhile
      have hl := List.takeWhile_append_dropWhile (p := isJsSpace) (l := l)
      generalize ((l.takeWhile isJsSpace).rdropWhile (· ≠ '\n')).dropLast = mid at hends
      generalize hrest : (l.takeWhile isJsSpace).rtakeWhile (· ≠ '\n') = last at hspaces
      rw [← hends] at hspaces
      have hspace : ∀ c ∈ mid ++ ['\n'] ++ last, isJsSpace c = true := by
        rw [hspaces]
        exact fun c hc => List.mem_takeWhile_imp hc
      refine ⟨mid, last ++ l.dropWhile isJsSpace, ?_, ?_, fun c hc => hspace c (by simp [hc]), ?_⟩
      · conv_lhs => rw [← hl, ← hspaces]
        simp
      · rw [← hkept, ← hends]
        simp
      · rw [List.takeWhile_append_of_pos fun c hc => hspace c (by simp [hc]), takeWhile_dropWhile,
          List.append_nil, ← hrest]
        intro hmem
        simpa using List.mem_rtakeWhile_imp hmem
  · cases h

end

/-! ## The text of a mail -/

def breakTag : Matcher Char where
  find := breakTagAt
  pos t n h := by
    obtain ⟨body, rest, -, rfl, -⟩ := breakTagAt_some h
    exact Nat.succ_pos _
  le t n h := by
    obtain ⟨body, rest, rfl, rfl, -⟩ := breakTagAt_some h
    simp only [List.length_cons, List.length_append]
    omega

def tag : Matcher Char where
  find := tagAt
  pos t n h := by
    obtain ⟨body, -, ⟨rest, -, rfl⟩ | ⟨-, rfl⟩⟩ := tagAt_some h
    · exact Nat.succ_pos _
    · exact Nat.succ_pos _
  le t n h := by
    obtain ⟨body, -, ⟨rest, rfl, rfl⟩ | ⟨rfl, rfl⟩⟩ := tagAt_some h
    · simp only [List.length_cons, List.length_append]
      omega
    · exact Nat.le_refl _

def blankLines : Matcher Char where
  find := blankLinesAt
  pos t n h := by
    obtain ⟨mid, rest, -, rfl, -⟩ := blankLinesAt_some h
    exact Nat.succ_pos _
  le t n h := by
    obtain ⟨mid, rest, rfl, rfl, -⟩ := blankLinesAt_some h
    simp only [List.length_cons, List.length_append]
    omega

/-- `parsedBody.replace(…, '\n').replace(…, '').replace(…, '\n\n').trim()`. -/
def plainText (body : String) : String :=
  String.ofList (trim (rewrite blankLines ['\n', '\n']
    (rewrite tag [] (rewrite breakTag ['\n'] body.toList))))

/-! ## What a reader of the markup sees -/

/-- What stands outside of the tags; the flag says if the reader is within a tag. -/
def outside : Bool → List Char → List Char
  | _, [] => []
  | false, c :: l => if c = '<' then outside true l else c :: outside false l
  | true, c :: l => outside (c ≠ '>') l

/-- No tag begins within another one. -/
def Unnested : Bool → List Char → Prop
  | _, [] => True
  | false, c :: l => Unnested (c = '<') l
  | true, c :: l => c ≠ '<' ∧ Unnested (c ≠ '>') l

/-- The characters that are not white space. -/
def visible (t : List Char) : List Char := t.filter fun c => !isJsSpace c

/-- No line break is followed by another one behind nothing but white space, except at once. -/
def Tidied (t : List Char) : Prop :=
  ∀ before mid behind, t = before ++ '\n' :: (mid ++ '\n' :: behind) →
    (∀ c ∈ mid, isJsSpace c = true) → mid = []

section
variable {b b' : Bool} {t t' l : List Char}

/-- Within a tag nothing is read up to its end. -/
theorem outside_true (h : '>' ∉ t) : outside true (t ++ '>' :: l) = outside false l := by
  induction t with
  | nil => rfl
  | cons c t ih =>
    rw [List.mem_cons, not_or] at h
    rw [List.cons_append, outside, decide_eq_true (Ne.symm h.1)]
    exact ih h.2

theorem outside_open (h : '>' ∉ t) : outside true t = [] := by
  induction t with
  | nil => rfl
  | cons c t ih =>
    rw [List.mem_cons, not_or] at h
    rw [outside, decide_eq_true (Ne.symm h.1)]
    exact ih h.2

/-- The second expression erases what a reading takes for tags. -/
theorem rewrite_tag (t : List Char) : rewrite tag [] t = outside false t := by
  have hrel := rewritten_rewrite tag [] t
  generalize rewrite tag [] t = t' at hrel
  induction hrel with
  | nil => rfl
  | @keep c l l' hnone _ ih =>
    have hc : c ≠ '<' := by
      rintro rfl
      cases hnone
    rw [outside, if_neg hc, ih]
  | @hit found rest l' _ hfind _ ih =>
    obtain ⟨body, hbody, ⟨rest', heq, hlength⟩ | ⟨heq, hlength⟩⟩ := tagAt_some hfind
    · have heq : found ++ rest = ('<' :: (body ++ ['>'])) ++ rest' := by simp [heq]
      obtain ⟨rfl, rfl⟩ := List.append_inj heq (by simp [hlength])
      have hcons : '<' :: (body ++ ['>']) ++ rest = '<' :: (body ++ '>' :: rest) := by simp
      rw [hcons, outside, if_pos rfl, outside_true hbody, List.nil_append, ih]
    · have hrest : rest = [] := by
        have hsize := congrArg List.length heq
        rw [List.length_append, hlength, List.length_cons] at hsize
        exact List.length_eq_zero_iff.1 (by omega)
      rw [heq, outside, if_pos rfl, outside_open hbody, List.nil_append, ih, hrest]
      rfl

theorem notMem_outside : '<' ∉ outside b t := by
  induction t generalizing b with
  | nil => cases b <;> exact List.not_mem_nil
  | cons c l ih =>
    cases b with
    | true => exact ih
    | false =>
      rw [outside]
      split_ifs with hc
      · exact ih
      · simp [Ne.symm hc, ih]

theorem visible_cons_sublist (c : Char) (h : (visible t').Sublist (visible t)) :
    (visible (c :: t')).Sublist (visible (c :: t)) := by
  unfold visible
  rw [List.filter_cons, List.filter_cons]
  split_ifs
  · exact h.cons_cons c
  · exact h

theorem visible_sublist_cons (c : Char) (h : (visible t').Sublist (visible t)) :
    (visible t').Sublist (visible (c :: t)) :=
  h.trans ((List.sublist_cons_self c t).filter _)

/-- A break is a tag. -/
theorem breakTag_found {found rest : List Char}
    (h : breakTagAt (found ++ rest) = some found.length) :
    ∃ body, found = '<' :: (body ++ ['>']) ∧ '>' ∉ body := by
  obtain ⟨body, rest', heq, hlength, hbody⟩ := breakTagAt_some h
  have heq : found ++ rest = ('<' :: (body ++ ['>'])) ++ rest' := by simp [heq]
  exact ⟨body, (List.append_inj heq (by simp [hlength])).1, hbody.2⟩

/-- Read from anywhere, a break ends outside. -/
theorem outside_break {body : List Char} (hbody : '>' ∉ body) :
    outside b ('<' :: (body ++ ['>']) ++ l) = outside false l := by
  have hcons : '<' :: (body ++ ['>']) ++ l = '<' :: (body ++ '>' :: l) := by simp
  rw [hcons]
  cases b with
  | false => rw [outside, if_pos rfl, outside_true hbody]
  | true => rw [outside, decide_eq_true (by decide), outside_true hbody]

theorem unnested_close (h : '>' ∉ t) (ht : Unnested true (t ++ '>' :: l)) : Unnested false l := by
  induction t with
  | nil => exact ht.2
  | cons c t ih =>
    rw [List.mem_cons, not_or] at h
    have ht := ht.2
    rw [decide_eq_true (Ne.symm h.1)] at ht
    exact ih h.2 ht

/-- What is read behind the breaks was read before them. A reader of the new text is within a tag
    wherever a reader of the old one is: the end of a tag can be that of a break within it. -/
theorem visible_outside_sublist (h : Rewritten breakTag ['\n'] t t') (hb : b = true → b' = true) :
    (visible (outside b' t')).Sublist (visible (outside b t)) := by
  induction h generalizing b b' with
  | nil => cases b <;> cases b' <;> exact List.Sublist.refl _
  | @keep c l l' _ _ ih =>
    cases b with
    | true =>
      obtain rfl := hb rfl
      exact ih id
    | false =>
      cases b' with
      | false =>
        rw [outside, outside]
        split_ifs
        · exact ih id
        · exact visible_cons_sublist c (ih id)
      | true =>
        rw [outside, outside]
        split_ifs with hc
        · exact ih fun _ => by simp [hc]
        · exact visible_sublist_cons c (ih nofun)
  | @hit found rest l' _ hfind _ ih =>
    obtain ⟨body, rfl, hbody⟩ := breakTag_found hfind
    rw [outside_break hbody]
    cases b' with
    | true => exact ih nofun
    | false =>
      rw [List.singleton_append, outside, if_neg (by decide)]
      exact ih id

/-- Nothing is lost if no tag begins within another one. -/
theorem visible_outside_eq (h : Rewritten breakTag ['\n'] t t') (hb : Unnested b t) :
    visible (outside b t') = visible (outside b t) := by
  induction h generalizing b with
  | nil => rfl
  | @keep c l l' _ _ ih =>
    cases b with
    | true => exact ih hb.2
    | false =>
      have ih := ih hb
      rw [outside, outside]
      split_ifs with hc
      · rwa [decide_eq_true hc] at ih
      · rw [decide_eq_false hc] at ih
        unfold visible at ih ⊢
        rw [List.filter_cons, List.filter_cons, ih]
  | @hit found rest l' _ hfind _ ih =>
    obtain ⟨body, rfl, hbody⟩ := breakTag_found hfind
    rw [outside_break hbody]
    cases b with
    | true => exact absurd rfl hb.1
    | false =>
      have hcons : '<' :: (body ++ ['>']) ++ rest = '<' :: (body ++ '>' :: rest) := by simp
      rw [hcons, Unnested, decide_eq_true rfl] at hb
      rw [List.singleton_append, outside, if_neg (by decide)]
      exact ih (unnested_close hbody hb)

/-! ## The result -/

theorem trim_within (t : List Char) : trim t <:+: t :=
  (List.rdropWhile_prefix isJsSpace (t.dropWhile isJsSpace)).isInfix.trans
    (List.dropWhile_suffix isJsSpace).isInfix

theorem trim_trim (t : List Char) : trim (trim t) = trim t := by
  have hdrop : (trim t).dropWhile isJsSpace = trim t := by
    rw [List.dropWhile_eq_self_iff]
    intro hpos
    have hpre : trim t <+: t.dropWhile isJsSpace := List.rdropWhile_prefix isJsSpace _
    have hne : t.dropWhile isJsSpace ≠ [] := by
      intro hnil
      rw [hnil, List.prefix_nil] at hpre
      rw [hpre] at hpos
      exact absurd hpos (by decide)
    have hhead : (trim t)[0] = (t.dropWhile isJsSpace).head hne := by
      rw [hpre.getElem, List.head_eq_getElem]
    rw [hhead, List.head_dropWhile_not isJsSpace hne]
    exact Bool.false_ne_true
  conv_lhs => rw [trim, hdrop]
  exact List.rdropWhile_idempotent _ _

theorem visible_spaces (h : ∀ c ∈ t, isJsSpace c = true) : visible t = [] := by
  rw [visible, List.filter_eq_nil_iff]
  exact fun c hc => by simp [h c hc]

theorem visible_append (t t' : List Char) : visible (t ++ t') = visible t ++ visible t' :=
  List.filter_append ..

theorem visible_trim (t : List Char) : visible (trim t) = visible t := by
  have hright : ∀ l, visible (l.rdropWhile isJsSpace) = visible l := by
    intro l
    conv_rhs => rw [← List.rdropWhile_append_rtakeWhile (p := isJsSpace) (l := l), visible_append,
      visible_spaces (t := l.rtakeWhile isJsSpace) fun c hc => List.mem_rtakeWhile_imp hc,
      List.append_nil]
  rw [trim, hright]
  conv_rhs => rw [← List.takeWhile_append_dropWhile (p := isJsSpace) (l := t), visible_append,
    visible_spaces (t := t.takeWhile isJsSpace) fun c hc => List.mem_takeWhile_imp hc,
    List.nil_append]

theorem visible_blankLines (t : List Char) :
    visible (rewrite blankLines ['\n', '\n'] t) = visible t :=
  filter_rewrite (by decide) fun s n h => by
    obtain ⟨mid, rest, rfl, rfl, hmid, -⟩ := blankLinesAt_some h
    have htake : ('\n' :: (mid ++ '\n' :: rest)).take (mid.length + 2) =
        '\n' :: (mid ++ ['\n']) := by
      have hcons : '\n' :: (mid ++ '\n' :: rest) = '\n' :: (mid ++ ['\n']) ++ rest := by simp
      rw [hcons, List.take_left' (by simp)]
    rw [htake]
    refine visible_spaces fun c hc => ?_
    rw [List.mem_cons, List.mem_append, List.mem_singleton] at hc
    rcases hc with rfl | hc | rfl
    · decide
    · exact hmid c hc
    · decide

theorem Tidied.within (h : Tidied t) (ht : t' <:+: t) : Tidied t' := by
  obtain ⟨x, y, rfl⟩ := ht
  intro before mid behind heq hmid
  refine h (x ++ before) mid (behind ++ y) ?_ hmid
  simp [heq]

theorem mem_lead {mid : List Char} (h : ∀ c ∈ mid, isJsSpace c = true) :
    '\n' ∈ (mid ++ '\n' :: l).takeWhile isJsSpace := by
  rw [List.takeWhile_append_of_pos h, List.takeWhile_cons_of_pos (by decide)]
  simp

/-- No visible character comes with a blank line. -/
theorem notMem_blankLines (ht : '<' ∉ t) : '<' ∉ rewrite blankLines ['\n', '\n'] t := by
  intro hmem
  have hvisible : '<' ∈ visible (rewrite blankLines ['\n', '\n'] t) :=
    List.mem_filter.2 ⟨hmem, by decide⟩
  rw [visible_blankLines] at hvisible
  exact ht (List.mem_filter.1 hvisible).1

/-- What a text begins with decides if a line break before it begins a match; the replacement of
    the matches behind it does not change that. -/
theorem tidied_rewrite (t : List Char) : Tidied (rewrite blankLines ['\n', '\n'] t) := by
  have hrel := rewritten_rewrite blankLines ['\n', '\n'] t
  generalize rewrite blankLines ['\n', '\n'] t = t' at hrel
  suffices h : Tidied t' ∧ ('\n' ∉ t.takeWhile isJsSpace → '\n' ∉ t'.takeWhile isJsSpace) from h.1
  induction hrel with
  | nil =>
    refine ⟨fun before mid behind heq => ?_, id⟩
    have hlength := congrArg List.length heq
    simp at hlength
  | @keep c l l' hnone _ ih =>
    obtain ⟨htidied, hlead⟩ := ih
    refine ⟨fun before mid behind heq hmid => ?_, fun hnot hmem => ?_⟩
    · cases before with
      | nil =>
        obtain ⟨rfl, rfl⟩ := List.cons.inj heq
        exact absurd (mem_lead hmid) (hlead (blankLinesAt_none.1 hnone))
      | cons d before =>
        obtain ⟨rfl, rfl⟩ := List.cons.inj heq
        exact htidied before mid behind rfl hmid
    · by_cases hc : isJsSpace c = true
      · rw [List.takeWhile_cons_of_pos hc, List.mem_cons, not_or] at hnot
        rw [List.takeWhile_cons_of_pos hc, List.mem_cons] at hmem
        exact hmem.elim hnot.1 (hlead hnot.2)
      · rw [List.takeWhile_cons_of_neg hc] at hmem
        cases hmem
  | @hit found rest l' _ hfind _ ih =>
    obtain ⟨htidied, hlead⟩ := ih
    obtain ⟨mid₀, rest₀, heq₀, hlength, -, hrest⟩ := blankLinesAt_some hfind
    have heq₀ : found ++ rest = '\n' :: (mid₀ ++ ['\n']) ++ rest₀ := by simp [heq₀]
    obtain ⟨rfl, rfl⟩ := List.append_inj heq₀ (by simp [hlength])
    have hlead := hlead hrest
    refine ⟨fun before mid behind heq hmid => ?_, fun hnot => ?_⟩
    · rcases before with _ | ⟨d, _ | ⟨d', before⟩⟩
      · cases mid with
        | nil => rfl
        | cons e mid =>
          obtain ⟨-, heq⟩ := List.cons.inj heq
          obtain ⟨rfl, rfl⟩ := List.cons.inj heq
          exact absurd (mem_lead fun c hc => hmid c (List.mem_cons_of_mem _ hc)) hlead
      · obtain ⟨-, heq⟩ := List.cons.inj heq
        obtain ⟨-, rfl⟩ := List.cons.inj heq
        exact absurd (mem_lead hmid) hlead
      · obtain ⟨-, heq⟩ := List.cons.inj heq
        obtain ⟨-, rfl⟩ := List.cons.inj heq
        exact htidied before mid behind rfl hmid
    · exact absurd (by simp [isJsSpace]) hnot

/-- A text without tags that is tidied and trimmed stays as it is. -/
theorem plainText_eq_self {u : String} (htag : '<' ∉ u.toList) (htidied : Tidied u.toList)
    (htrim : trim u.toList = u.toList) : plainText u = u := by
  have hsuffix : ∀ s, s <:+ u.toList → '<' ∉ s := fun s hs hmem => htag (hs.subset hmem)
  have hbreak : rewrite breakTag ['\n'] u.toList = u.toList :=
    rewrite_of_none fun s hs => by
      by_contra hsome
      obtain ⟨n, h⟩ := Option.ne_none_iff_exists'.1 hsome
      obtain ⟨body, rest, rfl, -⟩ := breakTagAt_some h
      exact hsuffix _ hs List.mem_cons_self
  have htags : rewrite tag [] u.toList = u.toList :=
    rewrite_of_none fun s hs => by
      by_contra hsome
      obtain ⟨n, h⟩ := Option.ne_none_iff_exists'.1 hsome
      obtain ⟨body, -, ⟨rest, rfl, -⟩ | ⟨rfl, -⟩⟩ := tagAt_some h
      · exact hsuffix _ hs List.mem_cons_self
      · exact hsuffix _ hs List.mem_cons_self
  have hlines : rewrite blankLines ['\n', '\n'] u.toList = u.toList :=
    rewrite_eq_self fun s hs n h => by
      obtain ⟨mid, rest, rfl, rfl, hmid, -⟩ := blankLinesAt_some h
      obtain ⟨before, heq⟩ := hs
      obtain rfl := htidied before mid rest heq.symm hmid
      rfl
  rw [plainText, hbreak, htags, hlines, htrim, String.ofList_toList]

/-- The text of a mail has no tag and no wide gap and is not changed by doing it again. What can be
    read in it can be read in the body, outside of the tags and in this order; and all of that
    is there if no tag begins within another one. -/
theorem plainText_spec (body : String) :
    '<' ∉ (plainText body).toList ∧ Tidied (plainText body).toList ∧
      plainText (plainText body) = plainText body ∧
      (visible (plainText body).toList).Sublist (visible (outside false body.toList)) ∧
      (Unnested false body.toList →
        visible (plainText body).toList = visible (outside false body.toList)) := by
  have hrel := rewritten_rewrite breakTag ['\n'] body.toList
  have htext : (plainText body).toList = trim (rewrite blankLines ['\n', '\n']
      (outside false (rewrite breakTag ['\n'] body.toList))) := by
    rw [plainText, String.toList_ofList, rewrite_tag]
  have hvisible : visible (plainText body).toList =
      visible (outside false (rewrite breakTag ['\n'] body.toList)) := by
    rw [htext, visible_trim, visible_blankLines]
  have htag : '<' ∉ (plainText body).toList := by
    rw [htext]
    refine fun hmem => notMem_blankLines notMem_outside ((trim_within _).subset hmem)
  have htidied : Tidied (plainText body).toList := by
    rw [htext]
    exact (tidied_rewrite _).within (trim_within _)
  have htrim : trim (plainText body).toList = (plainText body).toList := by
    rw [htext, trim_trim]
  refine ⟨htag, htidied, plainText_eq_self htag htidied htrim, ?_, fun hunnested => ?_⟩
  · rw [hvisible]
    exact visible_outside_sublist hrel id
  · rw [hvisible]
    exact visible_outside_eq hrel hunnested

end

end PlainText


end GatewayRealtime
