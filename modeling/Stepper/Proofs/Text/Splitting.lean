import Stepper.Text.Blank

/-!
What the tokens and the raw lines of a text are, said by how the text is put together from them.
Every text has exactly one list of tokens and one of raw lines.
-/
namespace Stepper.Text

/-- A token ends where a blank stands or nothing is left. -/
inductive Tokens : List Char → List (List Char) → Prop where
  | nil : Tokens [] []
  | blank {c : Char} {cs : List Char} {tokens : List (List Char)} (blank : isBlank c = true)
    (rest : Tokens cs tokens) : Tokens (c :: cs) tokens
  | token {token cs : List Char} {tokens : List (List Char)} (filled : token ≠ [])
    (solid : ∀ c ∈ token, isBlank c = false) (ends : ∀ c ∈ cs.head?, isBlank c = true)
    (rest : Tokens cs tokens) : Tokens (token ++ cs) (token :: tokens)

/-- The last raw line is the only one that no line feed ends. -/
inductive Lines : List Char → List (List Char) → Prop where
  | last {line : List Char} (whole : '\n' ∉ line) : Lines line [line]
  | line {line cs : List Char} {lines : List (List Char)} (whole : '\n' ∉ line)
    (rest : Lines cs lines) : Lines (line ++ '\n' :: cs) (line :: lines)

def terminated (lines : List (List Char)) : List Char := lines.flatMap fun line => line ++ ['\n']

@[simp] theorem terminated_nil : terminated [] = [] := rfl

@[simp] theorem terminated_cons (line : List Char) (lines : List (List Char)) :
    terminated (line :: lines) = line ++ '\n' :: terminated lines := by
  simp [terminated]

theorem tokens_append_blank {c : Char} (front back : List Char) (blank : isBlank c = true) :
    tokens (front ++ c :: back) = tokens front ++ tokens back := by
  unfold tokens
  rw [List.splitOnP_append_cons front back blank, List.filter_append]

theorem tokens_cons_blank {c : Char} (cs : List Char) (blank : isBlank c = true) :
    tokens (c :: cs) = tokens cs := by
  simpa using tokens_append_blank [] cs blank

/-- A place that no token runs across, for it has a blank on one side, or nothing. -/
def Parted (front back : List Char) : Prop :=
  (∀ c ∈ front.getLast?, isBlank c = true) ∨ ∀ c ∈ back.head?, isBlank c = true

theorem Parted.narrow {front back before behind : List Char} (parted : Parted front back)
    (suffix : before <:+ front) (begun : behind <+: back) : Parted before behind := by
  obtain ⟨_, rfl⟩ := suffix
  obtain ⟨_, rfl⟩ := begun
  refine parted.imp (fun blank c last => blank c ?_) fun blank c first => blank c ?_
  · rw [Option.mem_def] at last ⊢
    rw [List.getLast?_append, last, Option.some_or]
  · rw [Option.mem_def] at first ⊢
    rw [List.head?_append, first, Option.some_or]

theorem Parted.tokens_append {front back : List Char} (parted : Parted front back) :
    tokens (front ++ back) = tokens front ++ tokens back := by
  rcases parted with parted | parted
  · rcases List.eq_nil_or_concat front with rfl | ⟨front, c, rfl⟩
    · rfl
    · have blank : isBlank c = true := parted c (by simp)
      have alone := tokens_append_blank front [] blank
      rw [tokens_nil, List.append_nil] at alone
      rw [List.concat_eq_append, alone, List.append_assoc]
      exact tokens_append_blank front back blank
  · cases back with
    | nil => simp
    | cons c back =>
      have blank : isBlank c = true := parted c rfl
      rw [tokens_append_blank front back blank, tokens_cons_blank back blank]

theorem tokens_of_solid {token : List Char} (filled : token ≠ [])
    (solid : ∀ c ∈ token, isBlank c = false) :
    tokens token = [token] := by
  unfold tokens
  rw [List.splitOnP_eq_singleton solid]
  simp [filled]

theorem Tokens.tokens_eq {cs : List Char} {held : List (List Char)} (split : Tokens cs held) :
    tokens cs = held := by
  induction split with
  | nil => rfl
  | blank blank _ ih => rw [tokens_cons_blank _ blank, ih]
  | @token token cs held filled solid ends _ ih =>
    -- The blank that ends the token is where the text is cut.
    cases cs with
    | nil =>
      rw [← ih, List.append_nil, tokens_of_solid filled solid, tokens_nil]
    | cons c cs =>
      have blank := ends c rfl
      rw [tokens_append_blank token cs blank, tokens_of_solid filled solid, ← ih,
        tokens_cons_blank cs blank]
      rfl

theorem Tokens.cons_solid {c : Char} {cs : List Char} {held : List (List Char)}
    (solid : isBlank c = false) (split : Tokens cs held) :
    ∃ more, Tokens (c :: cs) more := by
  have alone : ∀ d ∈ [c], isBlank d = false := by simpa using solid
  cases split with
  | nil => exact ⟨_, .token (List.cons_ne_nil c []) alone (by simp) .nil⟩
  | blank blank rest =>
    exact ⟨_, .token (List.cons_ne_nil c []) alone (by simpa using blank) (.blank blank rest)⟩
  | @token token _ _ _ others ends rest =>
    have longer : ∀ d ∈ c :: token, isBlank d = false := by
      simpa using ⟨solid, others⟩
    exact ⟨_, .token (List.cons_ne_nil c token) longer ends rest⟩

theorem exists_tokens (cs : List Char) :
    ∃ held, Tokens cs held := by
  induction cs with
  | nil => exact ⟨[], .nil⟩
  | cons c cs ih =>
    obtain ⟨held, split⟩ := ih
    cases known : isBlank c with
    | true => exact ⟨held, .blank known split⟩
    | false => exact split.cons_solid known

theorem tokens_eq_iff {cs : List Char} {held : List (List Char)} :
    tokens cs = held ↔ Tokens cs held := by
  constructor
  · rintro rfl
    obtain ⟨held, split⟩ := exists_tokens cs
    rw [split.tokens_eq]
    exact split
  · exact Tokens.tokens_eq

theorem Lines.rawLines_eq {text : List Char} {held : List (List Char)} (split : Lines text held) :
    rawLines text = held := by
  induction split with
  | last whole => exact List.splitOn_eq_singleton whole
  | @line line cs _ whole _ ih =>
    rw [← ih]
    exact List.splitOn_append_cons_self_of_not_mem whole cs

theorem exists_lines (text : List Char) :
    ∃ held, Lines text held := by
  induction text with
  | nil => exact ⟨[[]], .last List.not_mem_nil⟩
  | cons c cs ih =>
    obtain ⟨held, split⟩ := ih
    by_cases feed : c = '\n'
    · subst feed
      exact ⟨[] :: held, .line List.not_mem_nil split⟩
    · have longer {line : List Char} (whole : '\n' ∉ line) : '\n' ∉ c :: line := by
        simpa [Ne.symm feed] using whole
      cases split with
      | last whole => exact ⟨_, .last (longer whole)⟩
      | line whole rest => exact ⟨_, .line (longer whole) rest⟩

theorem rawLines_eq_iff {text : List Char} {held : List (List Char)} :
    rawLines text = held ↔ Lines text held := by
  constructor
  · rintro rfl
    obtain ⟨held, split⟩ := exists_lines text
    rw [split.rawLines_eq]
    exact split
  · exact Lines.rawLines_eq

theorem Lines.of_cons {text line : List Char} {lines : List (List Char)} (more : lines ≠ [])
    (split : Lines text (line :: lines)) :
    '\n' ∉ line ∧ ∃ cs, text = line ++ '\n' :: cs ∧ Lines cs lines := by
  cases split with
  | last => exact absurd rfl more
  | line whole rest => exact ⟨whole, _, rfl, rest⟩

theorem Lines.terminated_append {earlier lines : List (List Char)} {text : List Char}
    (whole : ∀ line ∈ earlier, '\n' ∉ line) (split : Lines text lines) :
    Lines (terminated earlier ++ text) (earlier ++ lines) := by
  induction earlier with
  | nil => exact split
  | cons line earlier ih =>
    rw [List.forall_mem_cons] at whole
    rw [terminated_cons, List.append_assoc, List.cons_append]
    exact .line whole.1 (ih whole.2)

theorem Lines.append_feed {text : List Char} {lines : List (List Char)} (split : Lines text lines) :
    Lines (text ++ ['\n']) (lines ++ [[]]) := by
  induction split with
  | last whole => exact .line whole (.last List.not_mem_nil)
  | @line line cs _ whole _ ih =>
    rw [List.append_assoc]
    exact .line whole ih

theorem lines_terminated {lines : List (List Char)} (whole : ∀ line ∈ lines, '\n' ∉ line) :
    Lines (terminated lines) (lines ++ [[]]) := by
  simpa using Lines.terminated_append whole (.last List.not_mem_nil)

theorem exists_terminated_append (text : List Char) :
    ∃ earlier line, (∀ before ∈ earlier, '\n' ∉ before) ∧ '\n' ∉ line ∧
      text = terminated earlier ++ line := by
  obtain ⟨lines, split⟩ := exists_lines text
  induction split with
  | @last line whole => exact ⟨[], line, by simp, whole, rfl⟩
  | @line line cs lines whole _ ih =>
    obtain ⟨earlier, last, others, wholeLast, rfl⟩ := ih
    exact ⟨line :: earlier, last, List.forall_mem_cons.2 ⟨whole, others⟩, wholeLast, by simp⟩

/-- Nothing stands behind the last line feed. -/
def Complete (text : List Char) : Prop := ∀ c ∈ text.getLast?, c = '\n'

instance (text : List Char) : Decidable (Complete text) :=
  decidable_of_bool (text.getLast?.all (· == '\n')) (by
    unfold Complete
    cases text.getLast? <;> simp)

theorem Complete.exists_terminated {text : List Char} (complete : Complete text) :
    ∃ lines, (∀ line ∈ lines, '\n' ∉ line) ∧ text = terminated lines := by
  obtain ⟨earlier, line, others, whole, rfl⟩ := exists_terminated_append text
  cases last : line.getLast? with
  | none =>
    obtain rfl := List.getLast?_eq_none_iff.1 last
    exact ⟨earlier, others, List.append_nil _⟩
  | some c =>
    obtain rfl : c = '\n' := complete c (by simp [List.getLast?_append, last])
    exact absurd (List.mem_of_getLast? last) whole

/-- Where two texts meet there is one line, and it is the only one that changes if something is put
between the two. -/
theorem exists_lines_around (front back : List Char) : ∃ earlier before behind later,
    before <:+ front ∧ behind <+: back ∧ '\n' ∉ behind ∧
      ∀ inserted, '\n' ∉ inserted →
        Lines (front ++ inserted ++ back) (earlier ++ (before ++ inserted ++ behind) :: later) := by
  obtain ⟨earlier, before, others, wholeBefore, rfl⟩ := exists_terminated_append front
  have joined {behind inserted : List Char} (whole : '\n' ∉ behind) (insertable : '\n' ∉ inserted) :
      '\n' ∉ before ++ inserted ++ behind := by simp [wholeBefore, insertable, whole]
  obtain ⟨lines, split⟩ := exists_lines back
  cases split with
  | last whole =>
    refine ⟨earlier, before, back, [], List.suffix_append _ _, List.prefix_rfl, whole, ?_⟩
    intro inserted insertable
    simpa using Lines.terminated_append others (.last (joined whole insertable))
  | @line behind cs later whole rest =>
    refine ⟨earlier, before, behind, later, List.suffix_append _ _, List.prefix_append _ _, whole,
      ?_⟩
    intro inserted insertable
    simpa using Lines.terminated_append others (.line (joined whole insertable) rest)

theorem count_terminated {earlier : List (List Char)} (whole : ∀ line ∈ earlier, '\n' ∉ line) :
    (terminated earlier).count '\n' = earlier.length := by
  induction earlier with
  | nil => rfl
  | cons line earlier ih =>
    rw [List.forall_mem_cons] at whole
    rw [terminated_cons, List.count_append, List.count_eq_zero.2 whole.1, List.count_cons_self,
      ih whole.2]
    simp

theorem exists_lines_append_iff {text line : List Char} {earlier : List (List Char)} :
    (∃ later, Lines text (earlier ++ line :: later)) ↔
      (∀ before ∈ earlier, '\n' ∉ before) ∧ '\n' ∉ line ∧
        ∃ back, text = terminated earlier ++ line ++ back ∧ ∀ c ∈ back.head?, c = '\n' := by
  induction earlier generalizing text with
  | nil =>
    constructor
    · rintro ⟨later, split⟩
      cases split with
      | last whole => exact ⟨by simp, whole, [], by simp⟩
      | @line _ cs _ whole rest => exact ⟨by simp, whole, '\n' :: cs, by simp⟩
    · rintro ⟨-, whole, back, rfl, feed⟩
      cases back with
      | nil => exact ⟨[], by simpa using Lines.last whole⟩
      | cons c back =>
        obtain rfl : c = '\n' := feed c rfl
        obtain ⟨later, split⟩ := exists_lines back
        exact ⟨later, by simpa using Lines.line whole split⟩
  | cons before earlier ih =>
    rw [List.forall_mem_cons]
    constructor
    · rintro ⟨later, split⟩
      obtain ⟨wholeBefore, cs, rfl, rest⟩ := split.of_cons (by simp)
      obtain ⟨others, whole, back, rfl, feed⟩ := ih.1 ⟨later, rest⟩
      exact ⟨⟨wholeBefore, others⟩, whole, back, by simp, feed⟩
    · rintro ⟨⟨wholeBefore, others⟩, whole, back, rfl, feed⟩
      obtain ⟨later, split⟩ := ih.2 ⟨others, whole, back, rfl, feed⟩
      exact ⟨later, by simpa using Lines.line wholeBefore split⟩

end Stepper.Text
