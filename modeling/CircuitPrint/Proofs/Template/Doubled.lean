import CircuitPrint.Proofs.Intercalate
import CircuitPrint.Proofs.Message.Construction
import CircuitPrint.Proofs.Text.Split
import CircuitPrint.Template.Directed

/-!
Literal text of templates with directives. It is read exactly if its percent signs can be paired from left to right,
that is, if every maximal run of percent signs has even length. Each pair then stands for one percent sign, and each
stretch of other characters for itself.
-/
namespace CircuitPrint.Template

inductive Doubled : List Char → Prop
  | nil : Doubled []
  | char {c : Char} {text : List Char} (plain : c ≠ '%') (rest : Doubled text) : Doubled (c :: text)
  | pair {text : List Char} (rest : Doubled text) : Doubled ('%' :: '%' :: text)

/-- Every run of percent signs that neither begins nor ends beside another one has even length. -/
def EvenRuns (text : List Char) : Prop :=
  ∀ before count after, text = before ++ (List.replicate count '%' ++ after) →
    before.getLast? ≠ some '%' → after.head? ≠ some '%' → count % 2 = 0

theorem getLast?_of_cons {α : Type} {a b : α} {list : List α} (other : (a :: list).getLast? ≠ some b) :
    list.getLast? ≠ some b := by
  intro last
  apply other
  rw [List.getLast?_cons, last, Option.getD_some]

theorem evenRuns_of_doubled {text : List Char} (doubled : Doubled text) : EvenRuns text := by
  induction doubled with
  | nil =>
    intro before count after whole _ _
    have empty := (List.append_eq_nil_iff.mp (List.append_eq_nil_iff.mp whole.symm).2).1
    have none : count = 0 := by simpa using congrArg List.length empty
    rw [none]
  | @char c text plain _ ih =>
    intro before count after whole left right
    cases before with
    | cons first before =>
      obtain ⟨_, rest⟩ := List.cons.inj whole
      exact ih before count after rest (getLast?_of_cons left) right
    | nil =>
      -- The run stands at the front, where there is another character.
      cases count with
      | zero => rfl
      | succ count => exact absurd (List.cons.inj whole).1 plain
  | @pair text _ ih =>
    intro before count after whole left right
    match before, count with
    | [], 0 => rfl
    | [], 1 =>
      obtain ⟨_, rest⟩ := List.cons.inj whole
      exact absurd (congrArg List.head? rest).symm right
    | [], count + 2 =>
      obtain ⟨_, rest⟩ := List.cons.inj whole
      obtain ⟨_, rest⟩ := List.cons.inj rest
      have even := ih [] count after rest (Option.some_ne_none _).symm right
      omega
    | [first], count =>
      obtain ⟨rfl, _⟩ := List.cons.inj whole
      exact absurd rfl left
    | first :: second :: before, count =>
      obtain ⟨_, rest⟩ := List.cons.inj whole
      obtain ⟨_, rest⟩ := List.cons.inj rest
      exact ih before count after rest (getLast?_of_cons (getLast?_of_cons left)) right

theorem doubled_of_evenRuns {text : List Char} (even : EvenRuns text) : Doubled text := by
  match text with
  | [] => exact .nil
  | c :: rest =>
    by_cases sign : c = '%'
    · subst sign
      match rest with
      | [] => exact absurd (even [] 1 [] rfl (Option.some_ne_none _).symm (Option.some_ne_none _).symm) (by decide)
      | d :: rest =>
        by_cases pair : d = '%'
        · subst pair
          refine .pair (doubled_of_evenRuns ?_)
          intro before count after whole left right
          cases before with
          | nil =>
            have longer := even [] (count + 2) after (congrArg (fun tail => '%' :: '%' :: tail) whole)
              (Option.some_ne_none _).symm right
            omega
          | cons first before =>
            refine even ('%' :: '%' :: first :: before) count after
              (congrArg (fun tail => '%' :: '%' :: tail) whole) ?_ right
            rwa [List.getLast?_cons_cons, List.getLast?_cons_cons]
        · have single := even [] 1 (d :: rest) rfl (Option.some_ne_none _).symm
            (fun same => pair (Option.some.inj same))
          exact absurd single (by decide)
    · refine .char sign (doubled_of_evenRuns ?_)
      intro before count after whole left right
      refine even (c :: before) count after (congrArg (c :: ·) whole) ?_ right
      cases before with
      | nil => exact fun same => sign (Option.some.inj same)
      | cons first before => rwa [List.getLast?_cons_cons]

theorem free_prepend_iff {c : Char} {parts : List (List Char)} :
    (∀ part ∈ Text.prepend c parts, '%' ∉ part) ↔ c ≠ '%' ∧ ∀ part ∈ parts, '%' ∉ part := by
  have free (part : List Char) : '%' ∉ c :: part ↔ c ≠ '%' ∧ '%' ∉ part := by
    rw [List.mem_cons, not_or]
    exact and_congr_left' ne_comm
  cases parts with
  | nil =>
    rw [Text.prepend, List.forall_mem_singleton, free, and_iff_left List.not_mem_nil,
      and_iff_left (List.forall_mem_nil _)]
  | cons part parts => rw [Text.prepend, List.forall_mem_cons, List.forall_mem_cons, free, and_assoc]

theorem doubled_iff_free (text : List Char) : Doubled text ↔ ∀ part ∈ Text.split '%' '%' text, '%' ∉ part := by
  fun_induction Text.split '%' '%' text with
  | case1 => exact ⟨fun _ => by simp, fun _ => .nil⟩
  | case2 c =>
    have alone : Doubled [c] ↔ c ≠ '%' ∧ Doubled [] := by
      refine ⟨fun doubled => ?_, fun both => .char both.1 both.2⟩
      cases doubled with
      | char plain rest => exact ⟨plain, rest⟩
    rw [alone, and_iff_left Doubled.nil]
    simp [ne_comm]
  | case3 c d text both ih =>
    obtain ⟨rfl, rfl⟩ := both
    rw [List.forall_mem_cons, ← ih, and_iff_right List.not_mem_nil]
    refine ⟨fun doubled => ?_, .pair⟩
    cases doubled with
    | char plain _ => exact absurd rfl plain
    | pair rest => exact rest
  | case4 c d text other ih =>
    rw [free_prepend_iff, ← ih]
    refine ⟨fun doubled => ?_, fun both => .char both.1 both.2⟩
    cases doubled with
    | char plain rest => exact ⟨plain, rest⟩
    | pair _ => exact absurd ⟨rfl, rfl⟩ other

def prependChar (c : Char) : Message → Message
  | .text content :: pieces => .text (String.ofList (c :: content.toList)) :: pieces
  | pieces => .text (String.ofList [c]) :: pieces

/-- A percent sign for each pair of them, and text for each stretch of other characters. -/
def undoubled : List Char → Message
  | [] => []
  | '%' :: '%' :: text => .percent :: undoubled text
  | c :: text => prependChar c (undoubled text)

theorem undoubled_char {c : Char} (plain : c ≠ '%') (text : List Char) :
    undoubled (c :: text) = prependChar c (undoubled text) := by
  rw [undoubled]
  exact fun _ same _ => plain same

theorem literal_cons (c : Char) (content : List Char) :
    Message.literal (String.ofList (c :: content)) = [.text (String.ofList (c :: content))] :=
  Message.literal_eq (by simp)

theorem intercalate_prepend (c : Char) (parts : List (List Char)) (some : parts ≠ []) :
    Message.percent.intercalate ((Text.prepend c parts).map fun part => Message.literal (String.ofList part)) =
      prependChar c (Message.percent.intercalate (parts.map fun part => Message.literal (String.ofList part))) := by
  cases parts with
  | nil => exact absurd rfl some
  | cons part parts =>
    rw [Text.prepend, List.map_cons, List.map_cons, Intercalate.of_cons, Intercalate.of_cons,
      literal_cons c part]
    cases part with
    | nil => cases parts <;> rfl
    | cons d part => rw [literal_cons d part, List.singleton_append, List.singleton_append,
        prependChar, String.toList_ofList]

theorem intercalate_of_doubled {text : List Char} (doubled : Doubled text) :
    Message.percent.intercalate
      ((Text.split '%' '%' text).map fun part => Message.literal (String.ofList part)) = undoubled text := by
  induction doubled with
  | nil => rfl
  | @char c text plain _ ih =>
    rw [Text.split_cons fun both => plain both.1, intercalate_prepend _ _ (Text.split_ne_nil _ _ _), ih,
      undoubled_char plain]
  | @pair text _ ih =>
    obtain ⟨part, parts, same⟩ := List.exists_cons_of_ne_nil (Text.split_ne_nil '%' '%' text)
    rw [same] at ih
    rw [Text.split_mark, same, undoubled, ← ih]
    rfl

theorem directedText_of_doubled {text : List Char} (doubled : Doubled text) :
    directedText text = .ok (undoubled text) := by
  have free := (doubled_iff_free text).mp doubled
  rw [directedText, if_neg]
  · exact congrArg Except.ok (intercalate_of_doubled doubled)
  · intro found
    obtain ⟨part, member, sign⟩ := List.any_eq_true.mp found
    exact free part member (List.contains_iff_mem.mp sign)

theorem directedText_of_not_doubled {text : List Char} (other : ¬ Doubled text) :
    directedText text = .error .strayPercent := by
  rw [directedText, if_pos]
  by_contra none
  apply other
  rw [doubled_iff_free]
  intro part member sign
  exact none (List.any_eq_true.mpr ⟨part, member, List.contains_iff_mem.mpr sign⟩)

theorem directedText_eq_ok {text : List Char} {message : Message} :
    directedText text = .ok message ↔ Doubled text ∧ undoubled text = message := by
  by_cases doubled : Doubled text
  · rw [directedText_of_doubled doubled, and_iff_right doubled, Except.ok.injEq]
  · rw [directedText_of_not_doubled doubled]
    simp [doubled]

end CircuitPrint.Template
