import Opener.Core.DomainNames

/-!
Which names the checks accept, and what they read. On a string that ends in a zero they decide
the names of hosts, and each dot that was overwritten is written back.
-/

namespace Opener

/-- A nonempty string of letters, digits and hyphens with no hyphen at either end. -/
structure IsLabel (label : List UInt8) : Prop where
  nonempty : label ≠ []
  characters : ∀ byte ∈ label, isalnumC byte = true ∨ byte = 0x2D
  first : label.head? ≠ some 0x2D
  last : label.getLast? ≠ some 0x2D

/-- One or more labels with a dot between any two. -/
def IsDomain (domain : List UInt8) : Prop :=
  ∃ labels, labels ≠ [] ∧ (∀ label ∈ labels, IsLabel label) ∧
    domain = [0x2E].intercalate labels

/-- The front of a label, which may go on behind it. -/
def IsLabelFront (label : List UInt8) : Prop :=
  (∀ byte ∈ label.head?, isalnumC byte = true) ∧
    ∀ byte ∈ label.tail, isalnumC byte = true ∨ byte = 0x2D

theorem isLabelFront_iff (label : List UInt8) :
    ((label.head?.all isalnumC && label.tail.all fun byte => isalnumC byte || byte == 0x2D) =
      true) ↔ IsLabelFront label := by
  cases label with
  | nil => simp [IsLabelFront]
  | cons first label => simp [IsLabelFront]

instance (label : List UInt8) : Decidable (IsLabelFront label) :=
  decidable_of_iff _ (isLabelFront_iff label)

/-- There is nothing in front of one of the dots. -/
def HasEmptyLabel (domain : List UInt8) : Prop := [] ∈ (domain.splitOn 0x2E).dropLast

instance (domain : List UInt8) : Decidable (HasEmptyLabel domain) :=
  inferInstanceAs (Decidable (_ ∈ _))

section Strings

theorem isLabelRest_iff (before : UInt8) (label : List UInt8) :
    isLabelRest before label = true ↔
      (∀ byte ∈ label, isalnumC byte = true ∨ byte = 0x2D) ∧
        (before :: label).getLast? ≠ some 0x2D := by
  induction label generalizing before with
  | nil => simp [isLabelRest]
  | cons byte label ih =>
      rw [isLabelRest, Bool.and_eq_true, Bool.or_eq_true, decide_eq_true_eq, ih,
        List.forall_mem_cons, List.getLast?_cons_cons, and_assoc]

theorem isValidNameLabel_iff (label : List UInt8) :
    isValidNameLabel label = true ↔ IsLabel label := by
  cases label with
  | nil => exact iff_of_false Bool.false_ne_true fun h => h.nonempty rfl
  | cons byte label =>
      rw [isValidNameLabel, Bool.and_eq_true, isLabelRest_iff]
      constructor
      · rintro ⟨hfirst, hcharacters, hlast⟩
        refine ⟨List.cons_ne_nil _ _, List.forall_mem_cons.mpr ⟨.inl hfirst, hcharacters⟩, ?_,
          hlast⟩
        rintro hhyphen
        obtain rfl := Option.some.inj hhyphen
        exact absurd hfirst (by decide)
      · intro h
        obtain ⟨hfirst, hcharacters⟩ := List.forall_mem_cons.mp h.characters
        exact ⟨hfirst.resolve_right fun hhyphen => h.first (congrArg some hhyphen),
          hcharacters, h.last⟩

theorem IsLabel.isLabelFront {label : List UInt8} (h : IsLabel label) : IsLabelFront label :=
  ⟨fun byte hbyte => (h.characters byte (List.mem_of_mem_head? hbyte)).resolve_right
      fun hhyphen => h.first (hhyphen ▸ hbyte),
    fun byte hbyte => h.characters byte (List.mem_of_mem_tail hbyte)⟩

theorem IsLabel.not_mem_dot {label : List UInt8} (h : IsLabel label) : 0x2E ∉ label := by
  intro hdot
  exact absurd (h.characters 0x2E hdot) (by decide)

theorem isValidDomain_iff (domain : List UInt8) :
    isValidDomain domain = true ↔ IsDomain domain := by
  rw [isValidDomain, List.all_eq_true]
  simp only [isValidNameLabel_iff]
  constructor
  · exact fun h => ⟨domain.splitOn 0x2E, List.splitOn_ne_nil _ _, h,
      (List.intercalate_splitOn _).symm⟩
  · rintro ⟨labels, hne, hlabels, rfl⟩
    rwa [List.splitOn_intercalate _ (fun label hl => (hlabels label hl).not_mem_dot) hne]

theorem hasEmptyLabel_whole {label : List UInt8} (hdot : 0x2E ∉ label) :
    ¬ HasEmptyLabel label := by
  rw [HasEmptyLabel, List.splitOn_eq_singleton hdot]
  exact List.not_mem_nil

theorem hasEmptyLabel_cut {label rest : List UInt8} (hdot : 0x2E ∉ label) :
    HasEmptyLabel (label ++ 0x2E :: rest) ↔ label = [] ∨ HasEmptyLabel rest := by
  rw [HasEmptyLabel, List.splitOn_append_cons_self_of_not_mem hdot,
    List.dropLast_cons_of_ne_nil (List.splitOn_ne_nil _ _), List.mem_cons, eq_comm,
    HasEmptyLabel]

theorem HasEmptyLabel.not_isDomain {domain : List UInt8} (h : HasEmptyLabel domain) :
    ¬ IsDomain domain := by
  rw [← isValidDomain_iff, isValidDomain, List.all_eq_true]
  exact fun hall => Bool.false_ne_true (hall [] (List.mem_of_mem_dropLast h))

end Strings

/-- A list is taken apart at its separators, the front first. -/
@[elab_as_elim]
theorem splitInduction {α : Type} (separator : α) {motive : List α → Prop}
    (last : ∀ part, separator ∉ part → motive part)
    (cut : ∀ part rest, separator ∉ part → motive rest → motive (part ++ separator :: rest))
    (whole : List α) : motive whole := by
  generalize hn : whole.length = n
  induction n using Nat.strongRecOn generalizing whole with
  | ind n ih =>
      by_cases hmem : separator ∈ whole
      · obtain ⟨part, rest, rfl, hpart⟩ := List.eq_append_cons_of_mem hmem
        refine cut part rest hpart (ih rest.length ?_ rest rfl)
        rw [← hn, List.length_append, List.length_cons]
        omega
      · exact last whole hmem

namespace InMemory

variable {label beyond rest : List UInt8}

/-- The zero at the end stops the search. -/
theorem strchr_terminated {character : UInt8} (hcharacter : character ≠ 0)
    (h : character ∉ label) : strchr character (label ++ 0 :: beyond) = .ok none := by
  induction label with
  | nil => rw [List.nil_append, strchr, if_neg hcharacter.symm, if_pos rfl]
  | cons byte label ih =>
      obtain ⟨hbyte, hlabel⟩ := List.ne_and_not_mem_of_not_mem_cons h
      rw [List.cons_append, strchr, if_neg hbyte.symm, ih hlabel]
      exact ite_self _

theorem strchr_cut {character : UInt8} (h : character ∉ label) (hzero : 0 ∉ label) :
    strchr character (label ++ character :: rest) = .ok (some label.length) := by
  induction label with
  | nil => rw [List.nil_append, strchr, if_pos rfl, List.length_nil]
  | cons byte label ih =>
      obtain ⟨hbyte, hlabel⟩ := List.ne_and_not_mem_of_not_mem_cons h
      obtain ⟨hne, hzero⟩ := List.ne_and_not_mem_of_not_mem_cons hzero
      rw [List.cons_append, strchr, if_neg hbyte.symm, if_neg hne.symm, ih hlabel hzero]
      rfl

/-- Without a zero the search leaves the memory. -/
theorem strchr_unterminated {character : UInt8} (h : character ∉ label) (hzero : 0 ∉ label) :
    strchr character label = .error .outOfBounds := by
  induction label with
  | nil => rfl
  | cons byte label ih =>
      obtain ⟨hbyte, hlabel⟩ := List.ne_and_not_mem_of_not_mem_cons h
      obtain ⟨hne, hzero⟩ := List.ne_and_not_mem_of_not_mem_cons hzero
      rw [strchr, if_neg hbyte.symm, if_neg hne.symm, ih hlabel hzero]
      rfl

theorem isValidLabelRest_terminated (before : UInt8) (hzero : 0 ∉ label) :
    isValidLabelRest before (label ++ 0 :: beyond) = .ok (isLabelRest before label) := by
  induction label generalizing before with
  | nil => simp [isValidLabelRest, isLabelRest]
  | cons byte label ih =>
      obtain ⟨hne, hzero⟩ := List.ne_and_not_mem_of_not_mem_cons hzero
      rw [List.cons_append, isValidLabelRest, isLabelRest, ih byte hzero]
      split
      · next hbyte => simp [hbyte.2]
      · next hbyte =>
          have hother : ¬ (isalnumC byte = true ∨ byte = 0x2D) := fun h => hbyte ⟨hne.symm, h⟩
          simp [hne.symm, not_or.mp hother]

theorem isValidNameLabel_terminated (hzero : 0 ∉ label) :
    isValidNameLabel (label ++ 0 :: beyond) = .ok (Opener.isValidNameLabel label) := by
  cases label with
  | nil => rfl
  | cons byte label =>
      obtain ⟨-, hzero⟩ := List.ne_and_not_mem_of_not_mem_cons hzero
      rw [List.cons_append, isValidNameLabel, Opener.isValidNameLabel,
        isValidLabelRest_terminated byte hzero]
      cases isalnumC byte <;> rfl

theorem set_behind (front rest : List UInt8) (byte byte' : UInt8) :
    (front ++ byte :: rest).set front.length byte' = front ++ byte' :: rest := by
  rw [List.set_append_right _ _ le_rfl, Nat.sub_self, List.set_cons_zero]

/-- The first label is checked, then what follows its dot, which is there again after that. -/
theorem isValidDomain_cut (hne : label ≠ []) (hdot : 0x2E ∉ label) (hzero : 0 ∉ label) :
    isValidDomain (label ++ 0x2E :: rest) =
      (read rest).bind fun next =>
        if next ≠ 0 then
          (isValidDomain rest).map fun checked =>
            (Opener.isValidNameLabel label && checked.1, label ++ 0x2E :: checked.2)
        else .ok (false, label ++ 0x2E :: rest) := by
  obtain ⟨first, tail, rfl⟩ := List.exists_cons_of_ne_nil hne
  have hfirst : first = 0x2E → False := fun h => hdot (h ▸ List.mem_cons_self)
  have hdrop : ((first :: tail) ++ 0 :: rest).drop ((first :: tail).length + 1) = rest := by
    simp [List.drop_append]
  have htake : ((first :: tail) ++ 0 :: rest).take ((first :: tail).length + 1) =
      (first :: tail) ++ [0] := by
    simp [List.take_append]
  rw [List.cons_append, isValidDomain.eq_3 _ _ hfirst, ← List.cons_append,
    strchr_cut hdot hzero]
  simp only [bind, Except.bind, pure, Except.pure, set_behind, hdrop, htake,
    isValidNameLabel_terminated hzero]
  cases read rest with
  | error fault => rfl
  | ok next =>
      refine if_congr Iff.rfl ?_ rfl
      cases isValidDomain rest with
      | error fault => rfl
      | ok checked =>
          simp only [List.append_assoc, List.singleton_append, set_behind, Except.map]

theorem isValidDomain_whole {domain : List UInt8} (hfirst : domain.head? ≠ some 0x2E)
    (hsearch : strchr 0x2E domain = .ok none) :
    isValidDomain domain = (isValidNameLabel domain).map fun status => (status, domain) := by
  cases domain with
  | nil => cases hsearch
  | cons first memory =>
      have hne : first = 0x2E → False := fun h => hfirst (congrArg some h)
      rw [isValidDomain.eq_3 _ _ hne, hsearch]
      simp only [bind, Except.bind, pure, Except.pure]
      cases isValidNameLabel (first :: memory) <;> rfl

theorem isValidDomain_terminated {domain : List UInt8} (hzero : 0 ∉ domain) :
    isValidDomain (domain ++ 0 :: beyond) =
      .ok (Opener.isValidDomain domain, domain ++ 0 :: beyond) := by
  induction domain using splitInduction (0x2E : UInt8) with
  | last label hdot =>
      have hfirst : (label ++ 0 :: beyond).head? ≠ some 0x2E := by
        cases label with
        | nil => simp
        | cons first label => simpa using (List.ne_and_not_mem_of_not_mem_cons hdot).1.symm
      rw [isValidDomain_whole hfirst (strchr_terminated (by decide) hdot),
        isValidNameLabel_terminated hzero, Opener.isValidDomain, List.splitOn_eq_singleton hdot,
        List.all_cons, List.all_nil, Bool.and_true]
      rfl
  | cut label rest hdot ih =>
      have hlabel : 0 ∉ label := fun h => hzero (List.mem_append_left _ h)
      have hrest : 0 ∉ rest := fun h =>
        hzero (List.mem_append_right _ (List.mem_cons_of_mem _ h))
      have hsplit : Opener.isValidDomain (label ++ 0x2E :: rest) =
          (Opener.isValidNameLabel label && Opener.isValidDomain rest) := by
        rw [Opener.isValidDomain, List.splitOn_append_cons_self_of_not_mem hdot, List.all_cons]
        rfl
      rw [hsplit, List.append_assoc, List.cons_append]
      rcases eq_or_ne label [] with rfl | hne
      · rw [List.nil_append, isValidDomain.eq_2]
        rfl
      rw [isValidDomain_cut hne hdot hlabel]
      cases rest with
      | nil =>
          -- the dot is the last character
          have hempty : Opener.isValidDomain [] = false := by decide
          rw [hempty, Bool.and_false]
          rfl
      | cons next rest =>
          have hnext : next ≠ 0 := (List.ne_and_not_mem_of_not_mem_cons hrest).1.symm
          rw [ih hrest, List.cons_append, read, Except.bind, if_pos hnext]
          rfl

/-- Without a zero the check ends only at an empty label. -/
theorem isValidDomain_unterminated {domain : List UInt8} (hzero : 0 ∉ domain) :
    isValidDomain domain =
      if HasEmptyLabel domain then .ok (false, domain) else .error .outOfBounds := by
  induction domain using splitInduction (0x2E : UInt8) with
  | last label hdot =>
      rw [if_neg (hasEmptyLabel_whole hdot)]
      cases label with
      | nil => rw [isValidDomain.eq_1]
      | cons first label =>
          have hfirst : first = 0x2E → False := fun h => hdot (h ▸ List.mem_cons_self)
          rw [isValidDomain.eq_3 _ _ hfirst, strchr_unterminated hdot hzero]
          rfl
  | cut label rest hdot ih =>
      have hlabel : 0 ∉ label := fun h => hzero (List.mem_append_left _ h)
      have hrest : 0 ∉ rest := fun h =>
        hzero (List.mem_append_right _ (List.mem_cons_of_mem _ h))
      rw [if_congr (hasEmptyLabel_cut hdot) rfl rfl]
      rcases eq_or_ne label [] with rfl | hne
      · rw [if_pos (.inl rfl), List.nil_append, isValidDomain.eq_2]
      rw [isValidDomain_cut hne hdot hlabel]
      simp only [hne, false_or]
      cases rest with
      | nil => rfl
      | cons next rest =>
          have hnext : next ≠ 0 := (List.ne_and_not_mem_of_not_mem_cons hrest).1.symm
          rw [read, Except.bind, if_pos hnext, ih hrest]
          split
          · rw [Except.map, Bool.and_false]
          · rfl

theorem isValidLabelRest_unterminated (before : UInt8) (hzero : 0 ∉ label) :
    isValidLabelRest before label =
      if label.all fun byte => isalnumC byte || byte == 0x2D then .error .outOfBounds
      else .ok false := by
  induction label generalizing before with
  | nil => rfl
  | cons byte label ih =>
      obtain ⟨hne, hzero⟩ := List.ne_and_not_mem_of_not_mem_cons hzero
      rw [isValidLabelRest, ih byte hzero, List.all_cons]
      by_cases hbyte : isalnumC byte = true ∨ byte = 0x2D
      · have hall : (isalnumC byte || byte == 0x2D) = true := by simpa using hbyte
        simp only [hbyte, hall, hne.symm, ne_eq, not_false_eq_true, true_and, if_true,
          Bool.true_and]
      · have hall : (isalnumC byte || byte == 0x2D) = false := by simpa using hbyte
        simp only [hbyte, hall, hne.symm, and_false, if_false, decide_false, Bool.false_and,
          Bool.false_eq_true]

/-- Without a zero the check ends only at a character that no label has there. -/
theorem isValidNameLabel_unterminated (hzero : 0 ∉ label) :
    isValidNameLabel label = if IsLabelFront label then .error .outOfBounds else .ok false := by
  cases label with
  | nil => rfl
  | cons byte label =>
      obtain ⟨-, hzero⟩ := List.ne_and_not_mem_of_not_mem_cons hzero
      rw [isValidNameLabel, isValidLabelRest_unterminated byte hzero,
        if_congr (isLabelFront_iff (byte :: label)).symm rfl rfl, List.head?_cons,
        List.tail_cons, Option.all_some]
      cases isalnumC byte with
      | true => simp
      | false => simp

end InMemory

/-- For every string the check ends with the memory as it was, and accepts the domains. -/
theorem isValidDomain_correct (domain beyond : List UInt8) (hzero : 0 ∉ domain) :
    ∃ status, InMemory.isValidDomain (domain ++ 0 :: beyond) =
        .ok (status, domain ++ 0 :: beyond) ∧
      (status = true ↔ IsDomain domain) :=
  ⟨isValidDomain domain, InMemory.isValidDomain_terminated hzero, isValidDomain_iff domain⟩

/-- `a.b`. -/
theorem isValidDomain_correct_ab :
    ∃ status, InMemory.isValidDomain [0x61, 0x2E, 0x62, 0] =
        .ok (status, [0x61, 0x2E, 0x62, 0]) ∧
      (status = true ↔ IsDomain [0x61, 0x2E, 0x62]) :=
  isValidDomain_correct [0x61, 0x2E, 0x62] [] (by decide)

end Opener
