/-
# The grammar of tag lines

A line is a tag line when it can be written as blanks, perhaps one asterisk with gaps behind it, an
at sign, a key, perhaps gaps and a value, and blanks. Every line is written in this way for one key
and one value at most, and these are the ones that are read from it. The lines that are not
written in this way are the blank ones, those that start with another character, and those whose
asterisk is followed by nothing or by another character than an at sign.
-/

import DocTags.Comment.Tag
import DocTags.Proofs.Text.Trimming

namespace DocTags.Tag

open Text

/-! ## The grammar -/

/-- What may stand before the at sign of a tag: nothing, or one asterisk and gaps. -/
inductive IsMarker : Text → Prop where
  | bare : IsMarker []
  | asterisk {gaps : Text} (only : gaps ⊆ [' ', '\t']) : IsMarker ('*' :: gaps)

/-- How a value is written behind its key. An empty value is not written, and then the key does
not end in a carriage return; any other stands behind gaps, starts with no gap and ends in no
blank. -/
inductive Writes (key : Text) : Text → Text → Prop where
  | nothing (ends : key.getLast? ≠ some '\r') : Writes key [] []
  | value {gaps value : Text} (apart : gaps ≠ []) (only : gaps ⊆ [' ', '\t'])
    (proper : value ≠ []) (starts : ∀ c, value.head? = some c → c ∉ [' ', '\t'])
    (ends : ∀ c, value.getLast? = some c → c ∉ [' ', '\t', '\r']) :
    Writes key (gaps ++ value) value

/-- A line writes a key and a value. -/
inductive IsLine : Text → Text → Text → Prop where
  | line {before marker key rest value after : Text} (start : before ⊆ [' ', '\t', '\r'])
    (marked : IsMarker marker) (plain : ∀ c ∈ key, c ∉ [' ', '\t'])
    (written : Writes key rest value) (stop : after ⊆ [' ', '\t', '\r']) :
    IsLine (before ++ (marker ++ '@' :: (key ++ rest)) ++ after) key value

/-- A line of another form: blank, with another first character than an asterisk or an at sign, or
with an asterisk that blanks alone follow, or gaps and another character than an at sign. A second
asterisk is such a character, and so is a carriage return. -/
inductive IsOther : Text → Prop where
  | blank {line : Text} (only : line ⊆ [' ', '\t', '\r']) : IsOther line
  | prose {before rest : Text} {c : Char} (start : before ⊆ [' ', '\t', '\r'])
    (other : c ∉ [' ', '\t', '\r', '*', '@']) : IsOther (before ++ c :: rest)
  | lone {before after : Text} (start : before ⊆ [' ', '\t', '\r'])
    (stop : after ⊆ [' ', '\t', '\r']) : IsOther (before ++ '*' :: after)
  | asterisk {before gaps rest : Text} {c : Char} (start : before ⊆ [' ', '\t', '\r'])
    (only : gaps ⊆ [' ', '\t']) (other : c ∉ [' ', '\t', '@']) :
    IsOther (before ++ '*' :: (gaps ++ c :: rest))

/-! ## Blanks and gaps -/

theorem isLineBlank_iff {c : Char} : isLineBlank c ↔ c ∈ [' ', '\t', '\r'] := by
  simp [isLineBlank, or_assoc]

theorem isLineBlank_eq_false_iff {c : Char} : isLineBlank c = false ↔ c ∉ [' ', '\t', '\r'] := by
  rw [← isLineBlank_iff, Bool.not_eq_true]

theorem isGap_iff {c : Char} : isGap c ↔ c ∈ [' ', '\t'] := by
  simp [isGap]

theorem isGap_eq_false_iff {c : Char} : isGap c = false ↔ c ∉ [' ', '\t'] := by
  rw [← isGap_iff, Bool.not_eq_true]

/-- Gaps are blanks. -/
theorem mem_blanks_of_isGap {c : Char} (gap : isGap c) : c ∈ [' ', '\t', '\r'] :=
  List.mem_append_left ['\r'] (isGap_iff.mp gap)

theorem isGap_eq_false_of_isLineBlank {c : Char} (ink : isLineBlank c = false) :
    isGap c = false := by
  apply Bool.eq_false_iff.mpr
  intro gap
  exact isLineBlank_eq_false_iff.mp ink (mem_blanks_of_isGap gap)

/-- Gaps at the end of a text that ends in no blank are none. -/
theorem eq_nil_of_gaps {text gaps : Text} (only : ∀ c ∈ gaps, isGap c)
    (last : ∀ c, (text ++ gaps).getLast? = some c → isLineBlank c = false) : gaps = [] := by
  cases atEnd : gaps.getLast? with
  | none => exact List.getLast?_eq_none_iff.mp atEnd
  | some c =>
      have ink : isLineBlank c = false := by
        apply last
        rw [List.getLast?_append, atEnd]
        rfl
      have gap := only c (List.mem_of_getLast? atEnd)
      rw [isGap_eq_false_of_isLineBlank ink] at gap
      exact absurd gap Bool.false_ne_true

/-! ## The parts of a trimmed line -/

/-- A key runs up to the first gap. -/
theorem span_key {key rest : Text} (plain : ∀ c ∈ key, c ∉ [' ', '\t'])
    (boundary : ∀ c, rest.head? = some c → isGap c) :
    (key ++ rest).takeWhile (!isGap ·) = key ∧ (key ++ rest).dropWhile (!isGap ·) = rest := by
  have inside : ∀ c ∈ key, (!isGap c) = true := by
    intro c member
    simp [isGap_eq_false_iff.mpr (plain c member)]
  rw [List.takeWhile_append_of_pos inside, List.dropWhile_append_of_pos inside]
  cases rest with
  | nil => simp
  | cons c rest => simp [boundary c rfl]

/-- A value that is written behind a key is read from there. -/
theorem Writes.read {key rest value : Text} (plain : ∀ c ∈ key, c ∉ [' ', '\t'])
    (written : Writes key rest value) :
    (key ++ rest).takeWhile (!isGap ·) = key ∧
      trim isGap ((key ++ rest).dropWhile (!isGap ·)) = value := by
  cases written with
  | nothing ends =>
      have boundary : ∀ c, ([] : Text).head? = some c → isGap c := by simp
      obtain ⟨taken, left⟩ := span_key plain boundary
      rw [taken, left]
      exact ⟨rfl, rfl⟩
  | @value gaps value apart only proper starts ends =>
      have boundary : ∀ c, (gaps ++ value).head? = some c → isGap c := by
        intro c head
        cases gaps with
        | nil => exact absurd rfl apart
        | cons gap gaps =>
            obtain rfl := Option.some.inj head
            exact isGap_iff.mpr (only List.mem_cons_self)
      obtain ⟨taken, left⟩ := span_key plain boundary
      rw [taken, left]
      refine ⟨rfl, trim_eq_iff.mpr ⟨⟨?_, ?_⟩, gaps, [], by simp, ?_, by simp⟩⟩
      · intro c head
        exact isGap_eq_false_iff.mpr (starts c head)
      · intro c last
        exact isGap_eq_false_of_isLineBlank (isLineBlank_eq_false_iff.mpr (ends c last))
      · intro c member
        exact isGap_iff.mpr (only member)

/-- The rest of a line behind its key, which starts with a gap and ends in no blank, writes the
value that is left when it is trimmed. Without a blank at the end, nothing is trimmed behind it. -/
theorem writes_trim {key rest : Text} {gap : Char} (head : rest.head? = some gap)
    (starts : isGap gap) (last : ∀ c, rest.getLast? = some c → isLineBlank c = false) :
    Writes key rest (trim isGap rest) := by
  obtain ⟨trimmed, gaps, after, cut, onlyBefore, onlyAfter⟩ :=
    trim_eq_iff.mp (rfl : trim isGap rest = trim isGap rest)
  generalize trim isGap rest = value at trimmed cut ⊢
  have noneAfter : after = [] := by
    apply eq_nil_of_gaps onlyAfter
    rwa [← cut]
  rw [noneAfter, List.append_nil] at cut
  subst cut
  have proper : value ≠ [] := by
    rintro rfl
    have alone : ∀ c, (([] : Text) ++ gaps).getLast? = some c → isLineBlank c = false := by
      simpa using last
    have noGaps : gaps = [] := eq_nil_of_gaps onlyBefore alone
    rw [noGaps] at head
    cases head
  have apart : gaps ≠ [] := by
    rintro rfl
    have ink := trimmed.head gap head
    rw [starts] at ink
    exact Bool.noConfusion ink
  refine .value apart ?_ proper ?_ ?_
  · intro c member
    exact isGap_iff.mp (onlyBefore c member)
  · intro c valueHead
    exact isGap_eq_false_iff.mp (trimmed.head c valueHead)
  · intro c valueLast
    apply isLineBlank_eq_false_iff.mp
    apply last
    rw [List.getLast?_append, valueLast]
    rfl

/-- What is read behind the at sign of a line that ends in no blank is written there. -/
theorem exists_writes {body key value : Text} (taken : body.takeWhile (!isGap ·) = key)
    (left : trim isGap (body.dropWhile (!isGap ·)) = value)
    (last : ∀ c, ('@' :: body).getLast? = some c → isLineBlank c = false) :
    ∃ rest, body = key ++ rest ∧ (∀ c ∈ key, c ∉ [' ', '\t']) ∧ Writes key rest value := by
  have whole : body = key ++ body.dropWhile (!isGap ·) := by
    rw [← taken, List.takeWhile_append_dropWhile]
  have plain : ∀ c ∈ key, c ∉ [' ', '\t'] := by
    intro c member
    rw [← taken] at member
    have ink := List.mem_takeWhile_imp member
    exact isGap_eq_false_iff.mp (by simpa using ink)
  refine ⟨body.dropWhile (!isGap ·), whole, plain, ?_⟩
  rw [← left]
  cases cut : body.dropWhile (!isGap ·) with
  | nil =>
      rw [cut, List.append_nil] at whole
      refine .nothing fun ends => ?_
      have ink : isLineBlank '\r' = false := by
        apply last
        rw [List.getLast?_cons, whole, ends]
        rfl
      exact absurd ink (by decide)
  | cons gap rest =>
      have notPlain : (!isGap gap) = false := head_dropWhile gap (by rw [cut]; rfl)
      have head : (gap :: rest).head? = some gap := rfl
      refine writes_trim head (by simpa using notPlain) fun c atEnd => ?_
      apply last
      rw [List.getLast?_cons, whole, cut, List.getLast?_append, atEnd]
      rfl

/-- A trimmed line is read behind an at sign when a marker stands before it. -/
theorem withoutAsterisk_eq_iff {core body : Text} (trimmed : Trimmed isLineBlank core) :
    withoutAsterisk core = '@' :: body ↔
      ∃ marker, IsMarker marker ∧ core = marker ++ '@' :: body := by
  constructor
  · intro read
    fun_cases withoutAsterisk core with
    | case1 rest =>
        obtain ⟨-, gaps, after, cut, onlyBefore, onlyAfter⟩ := trim_eq_iff.mp read
        have last : ∀ c, ('*' :: (gaps ++ '@' :: body) ++ after).getLast? = some c →
            isLineBlank c = false := by
          rw [List.cons_append, ← cut]
          exact trimmed.last
        have noneAfter : after = [] := eq_nil_of_gaps onlyAfter last
        refine ⟨'*' :: gaps, .asterisk fun c member => isGap_iff.mp (onlyBefore c member), ?_⟩
        rw [cut, noneAfter, List.append_nil]
        rfl
    | case2 line other =>
        refine ⟨[], .bare, ?_⟩
        rw [← read, withoutAsterisk]
        · rfl
        · exact other
  · rintro ⟨marker, marked, rfl⟩
    cases marked with
    | bare => rfl
    | @asterisk gaps only =>
        refine trim_eq_iff.mpr ⟨⟨?_, ?_⟩, gaps, [], by simp, ?_, by simp⟩
        · rintro c head
          obtain rfl := Option.some.inj head
          rfl
        · intro c atEnd
          apply isGap_eq_false_of_isLineBlank
          apply trimmed.last
          rw [List.getLast?_append, atEnd]
          rfl
        · intro c member
          exact isGap_iff.mpr (only member)

/-! ## Whole lines -/

/-- A line with a marker, an at sign, a key and a value ends in no blank. -/
theorem Writes.last {key rest value : Text} (plain : ∀ c ∈ key, c ∉ [' ', '\t'])
    (written : Writes key rest value) (c : Char)
    (atEnd : ('@' :: (key ++ rest)).getLast? = some c) : isLineBlank c = false := by
  apply isLineBlank_eq_false_iff.mpr
  cases written with
  | nothing ends =>
      rw [List.append_nil, List.getLast?_cons] at atEnd
      cases keyEnd : key.getLast? with
      | none =>
          rw [keyEnd] at atEnd
          obtain rfl := Option.some.inj atEnd
          decide
      | some d =>
          rw [keyEnd] at atEnd
          obtain rfl : d = c := Option.some.inj atEnd
          have noGap := plain d (List.mem_of_getLast? keyEnd)
          have noReturn : d ≠ '\r' := fun same => ends (same ▸ keyEnd)
          simp only [List.mem_cons, List.not_mem_nil, or_false, not_or] at noGap ⊢
          exact ⟨noGap.1, noGap.2, noReturn⟩
  | @value gaps value apart only proper starts ends =>
      apply ends
      cases valueEnd : value.getLast? with
      | none => exact absurd (List.getLast?_eq_none_iff.mp valueEnd) proper
      | some d =>
          rw [List.getLast?_cons, List.getLast?_append, List.getLast?_append, valueEnd] at atEnd
          exact atEnd

/-- A line is a tag line when it is read as an at sign behind a marker. -/
theorem ofLine?_eq_some_iff {line : Text} {tag : Tag} :
    ofLine? line = some tag ↔
      ∃ body, withoutAsterisk (trim isLineBlank line) = '@' :: body ∧
        tag = ⟨body.takeWhile (!isGap ·), trim isGap (body.dropWhile (!isGap ·))⟩ := by
  unfold ofLine?
  split
  · next body read => simp [read, eq_comm]
  · next other =>
      simp only [reduceCtorEq, false_iff, not_exists, not_and]
      intro body read
      exact absurd read (other body)

/-- A line that is written as a tag is trimmed to what stands between its blanks. -/
theorem trim_line {before marker key rest value after : Text}
    (start : before ⊆ [' ', '\t', '\r']) (marked : IsMarker marker)
    (plain : ∀ c ∈ key, c ∉ [' ', '\t']) (written : Writes key rest value)
    (stop : after ⊆ [' ', '\t', '\r']) :
    trim isLineBlank (before ++ (marker ++ '@' :: (key ++ rest)) ++ after) =
      marker ++ '@' :: (key ++ rest) := by
  refine trim_eq_iff.mpr ⟨⟨?_, ?_⟩, before, after, rfl, ?_, ?_⟩
  · intro c head
    cases marked with
    | bare =>
        obtain rfl := Option.some.inj head
        decide
    | asterisk only =>
        obtain rfl := Option.some.inj head
        decide
  · intro c atEnd
    rw [List.getLast?_append, List.getLast?_cons] at atEnd
    apply written.last plain c
    rw [List.getLast?_cons]
    exact atEnd
  · intro c member
    exact isLineBlank_iff.mpr (start member)
  · intro c member
    exact isLineBlank_iff.mpr (stop member)

/-- The key and the value that are read from a line are those that it writes. -/
theorem ofLine?_eq_some_iff_isLine {line key value : Text} :
    ofLine? line = some ⟨key, value⟩ ↔ IsLine line key value := by
  rw [ofLine?_eq_some_iff]
  constructor
  · rintro ⟨body, read, same⟩
    obtain ⟨trimmed, before, after, cut, onlyBefore, onlyAfter⟩ :=
      trim_eq_iff.mp (rfl : trim isLineBlank line = _)
    obtain ⟨marker, marked, core⟩ := (withoutAsterisk_eq_iff trimmed).mp read
    have last : ∀ c, ('@' :: body).getLast? = some c → isLineBlank c = false := by
      intro c atEnd
      apply trimmed.last
      rw [core, List.getLast?_append, atEnd]
      rfl
    obtain ⟨keySame, valueSame⟩ := Tag.mk.inj same
    obtain ⟨rest, whole, plain, written⟩ := exists_writes keySame.symm valueSame.symm last
    rw [cut, core, whole]
    refine .line ?_ marked plain written ?_
    · intro c member
      exact isLineBlank_iff.mp (onlyBefore c member)
    · intro c member
      exact isLineBlank_iff.mp (onlyAfter c member)
  · intro isLine
    cases isLine with
    | @line before marker key rest value after start marked plain written stop =>
        have core := trim_line start marked plain written stop
        have trimmed := trimmed_trim isLineBlank
          (before ++ (marker ++ '@' :: (key ++ rest)) ++ after)
        obtain ⟨taken, left⟩ := written.read plain
        refine ⟨key ++ rest, (withoutAsterisk_eq_iff trimmed).mpr ⟨marker, marked, core⟩, ?_⟩
        rw [taken, left]

/-! ## Lines of another form -/

/-- An asterisk that is not followed by an at sign makes a line of another form. -/
theorem isOther_of_asterisk {before rest after : Text} (start : before ⊆ [' ', '\t', '\r'])
    (unread : ∀ body, trim isGap rest ≠ '@' :: body) (stop : after ⊆ [' ', '\t', '\r']) :
    IsOther (before ++ '*' :: (rest ++ after)) := by
  obtain ⟨trimmed, gaps, behind, cut, onlyGaps, onlyBehind⟩ :=
    trim_eq_iff.mp (rfl : trim isGap rest = _)
  cases inner : trim isGap rest with
  | nil =>
      rw [inner, List.append_nil] at cut
      have blank : rest ++ after ⊆ [' ', '\t', '\r'] := by
        rw [cut]
        intro c member
        rcases List.mem_append.mp member with gap | blank
        · rcases List.mem_append.mp gap with first | last
          · exact mem_blanks_of_isGap (onlyGaps c first)
          · exact mem_blanks_of_isGap (onlyBehind c last)
        · exact stop blank
      exact .lone start blank
  | cons c more =>
      rw [inner] at cut trimmed unread
      have noGap := isGap_eq_false_iff.mp (trimmed.head c rfl)
      have noAt : c ≠ '@' := fun same => unread more (by rw [same])
      have whole : rest ++ after = gaps ++ c :: (more ++ behind ++ after) := by simp [cut]
      rw [whole]
      refine .asterisk start (fun d member => isGap_iff.mp (onlyGaps d member)) ?_
      simp only [List.mem_cons, List.not_mem_nil, or_false, not_or] at noGap ⊢
      exact ⟨noGap.1, noGap.2, noAt⟩

/-- A line that is not read is of another form. -/
theorem isOther_of_ofLine? {line : Text} (unread : ofLine? line = none) : IsOther line := by
  obtain ⟨trimmed, before, after, cut, onlyBefore, onlyAfter⟩ :=
    trim_eq_iff.mp (rfl : trim isLineBlank line = _)
  have start : before ⊆ [' ', '\t', '\r'] :=
    fun c member => isLineBlank_iff.mp (onlyBefore c member)
  have stop : after ⊆ [' ', '\t', '\r'] :=
    fun c member => isLineBlank_iff.mp (onlyAfter c member)
  have noTag : ∀ body, withoutAsterisk (trim isLineBlank line) ≠ '@' :: body := by
    intro body read
    rw [ofLine?_eq_some_iff.mpr ⟨body, read, rfl⟩] at unread
    cases unread
  cases core : trim isLineBlank line with
  | nil =>
      rw [core, List.append_nil] at cut
      rw [cut]
      exact .blank (List.append_subset.mpr ⟨start, stop⟩)
  | cons c rest =>
      rw [core] at cut trimmed noTag
      rw [cut, List.append_assoc, List.cons_append]
      by_cases star : c = '*'
      · subst star
        exact isOther_of_asterisk start noTag stop
      · have ink := isLineBlank_eq_false_iff.mp (trimmed.head c rfl)
        have noAt : c ≠ '@' := by
          rintro rfl
          exact noTag rest rfl
        refine .prose start ?_
        simp only [List.mem_cons, List.not_mem_nil, or_false, not_or] at ink ⊢
        exact ⟨ink.1, ink.2.1, ink.2.2, star, noAt⟩

/-- Behind its leading blanks a line starts with the first character that is none. -/
theorem dropWhile_blanks {before rest : Text} {c : Char} (start : before ⊆ [' ', '\t', '\r'])
    (ink : c ∉ [' ', '\t', '\r']) : (before ++ c :: rest).dropWhile isLineBlank = c :: rest := by
  rw [List.dropWhile_append_of_pos fun d member => isLineBlank_iff.mpr (start member),
    List.dropWhile_cons_of_neg (mt isLineBlank_iff.mp ink)]

/-- Behind its leading gaps a text starts with the first character that is none. -/
theorem dropWhile_gaps {gaps rest : Text} {c : Char} (only : gaps ⊆ [' ', '\t'])
    (ink : c ∉ [' ', '\t']) : (gaps ++ c :: rest).dropWhile isGap = c :: rest := by
  rw [List.dropWhile_append_of_pos fun d member => isGap_iff.mpr (only member),
    List.dropWhile_cons_of_neg (mt isGap_iff.mp ink)]

/-- Behind its leading blanks a tag line starts with its marker and the at sign. -/
theorem IsLine.exists_marker {line key value : Text} (isLine : IsLine line key value) :
    ∃ marker rest, IsMarker marker ∧ line.dropWhile isLineBlank = marker ++ '@' :: rest := by
  cases isLine with
  | @line before marker key rest value after start marked plain written stop =>
      refine ⟨marker, key ++ rest ++ after, marked, ?_⟩
      cases marked with
      | bare => simp [dropWhile_blanks start]
      | asterisk only => simp [dropWhile_blanks start]

/-- No line of another form is a tag line. -/
theorem IsOther.not_isLine {line : Text} (other : IsOther line) (key value : Text) :
    ¬ IsLine line key value := by
  intro isLine
  obtain ⟨marker, rest, marked, cut⟩ := isLine.exists_marker
  cases other with
  | blank only =>
      have empty : line.dropWhile isLineBlank = [] :=
        List.dropWhile_eq_nil_iff.mpr fun c member => isLineBlank_iff.mpr (only member)
      rw [empty] at cut
      simp at cut
  | @prose before rest c start other =>
      simp only [List.mem_cons, List.not_mem_nil, or_false, not_or] at other
      rw [dropWhile_blanks start (by simp [other])] at cut
      cases marked with
      | bare => exact other.2.2.2.2 (List.cons.inj cut).1
      | asterisk only => exact other.2.2.2.1 (List.cons.inj cut).1
  | lone start stop =>
      rw [dropWhile_blanks start (by decide)] at cut
      cases marked with
      | bare => simp at cut
      | asterisk only =>
          rw [List.cons_append] at cut
          have atSign : '@' ∈ [' ', '\t', '\r'] := by
            apply stop
            rw [(List.cons.inj cut).2]
            simp
          exact absurd atSign (by decide)
  | asterisk start only other =>
      rw [dropWhile_blanks start (by decide)] at cut
      cases marked with
      | bare => simp at cut
      | asterisk onlyMarker =>
          rw [List.cons_append] at cut
          have inner := congrArg (List.dropWhile isGap) (List.cons.inj cut).2
          simp only [List.mem_cons, List.not_mem_nil, or_false, not_or] at other
          rw [dropWhile_gaps only (by simp [other]), dropWhile_gaps onlyMarker (by decide)] at inner
          exact other.2.2 (List.cons.inj inner).1

/-- **Tag lines.** The key and the value that are read from a line are those that it writes by the
grammar, of which there is one pair at most. Nothing is read exactly from the lines of another
form, and these are the ones that write no key and value. -/
theorem ofLine?_grammar (line : Text) :
    (∀ key value, ofLine? line = some ⟨key, value⟩ ↔ IsLine line key value) ∧
      (∀ key value otherKey otherValue, IsLine line key value →
        IsLine line otherKey otherValue → key = otherKey ∧ value = otherValue) ∧
      (ofLine? line = none ↔ IsOther line) ∧
      (IsOther line ↔ ∀ key value, ¬ IsLine line key value) := by
  refine ⟨fun key value => ofLine?_eq_some_iff_isLine, ?_, ?_, ?_⟩
  · intro key value otherKey otherValue first second
    have same := (ofLine?_eq_some_iff_isLine.mpr first).symm.trans
      (ofLine?_eq_some_iff_isLine.mpr second)
    exact Tag.mk.inj (Option.some.inj same)
  · constructor
    · exact isOther_of_ofLine?
    · intro other
      apply Option.eq_none_iff_forall_ne_some.mpr
      intro tag read
      exact other.not_isLine tag.key tag.value (ofLine?_eq_some_iff_isLine.mp read)
  · constructor
    · exact IsOther.not_isLine
    · intro never
      apply isOther_of_ofLine?
      apply Option.eq_none_iff_forall_ne_some.mpr
      intro tag read
      exact never tag.key tag.value (ofLine?_eq_some_iff_isLine.mp read)

/-- Carriage returns belong to a key that a value follows and to the blanks around a line. Behind
the asterisk they make another form of it. -/
theorem ofLine?_grammar_of_returns :
    IsLine "\r * \t@a\r\t b \r".toList "a\r".toList ['b'] ∧
      (∀ key value, IsLine "\r * \t@a\r\t b \r".toList key value →
        "a\r".toList = key ∧ ['b'] = value) ∧
      IsOther "*\r@a".toList ∧ IsOther " **@a".toList := by
  have isLine : IsLine "\r * \t@a\r\t b \r".toList "a\r".toList ['b'] :=
    ((ofLine?_grammar _).1 _ _).mp (by decide)
  refine ⟨isLine, ?_, (ofLine?_grammar _).2.2.1.mp (by decide),
    (ofLine?_grammar _).2.2.1.mp (by decide)⟩
  intro key value other
  exact (ofLine?_grammar _).2.1 _ _ key value isLine other

end DocTags.Tag
