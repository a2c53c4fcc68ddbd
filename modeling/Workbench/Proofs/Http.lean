import Workbench.Http

/-!
Heads that arrive piece by piece.  What a look at some octets finds does not change when more octets arrive: a part
that is whole stays whole, and takes the same octets, and what cannot become one never does.  So of the front parts
of a stream no more than one is exactly a head, and all shorter ones need more.
-/

namespace Workbench.Http

variable {α β : Type}

/-- What is found does not depend on what arrives behind it. -/
structure Steady (p : Bytes → Scan α) : Prop where
  got : ∀ {octets : Bytes} {a : α} {rest : Bytes}, p octets = .got a rest →
    ∃ taken, octets = taken ++ rest ∧ ∀ more, p (taken ++ more) = .got a more
  bad : ∀ {octets : Bytes} {e : HeadFault}, p octets = .bad e → ∀ more, p (octets ++ more) = .bad e

theorem Scan.bind_eq_got {s : Scan α} {f : α → Bytes → Scan β} {b : β} {rest : Bytes} (h : s.bind f = .got b rest) :
    ∃ a mid, s = .got a mid ∧ f a mid = .got b rest := by
  cases s with
  | more => cases h
  | bad e => cases h
  | got a mid => exact ⟨a, mid, rfl, h⟩

theorem Scan.bind_eq_bad {s : Scan α} {f : α → Bytes → Scan β} {e : HeadFault} (h : s.bind f = .bad e) :
    s = .bad e ∨ ∃ a mid, s = .got a mid ∧ f a mid = .bad e := by
  cases s with
  | more => cases h
  | bad e' =>
      cases h
      exact .inl rfl
  | got a mid => exact .inr ⟨a, mid, rfl, h⟩

namespace Steady

variable {p q : Bytes → Scan α}

theorem pure (a : α) : Steady fun rest => .got a rest where
  got h := by
    cases h
    exact ⟨[], rfl, fun _ => rfl⟩
  bad h := by cases h

theorem refuse (e : HeadFault) : Steady fun _ => (.bad e : Scan α) where
  got h := by cases h
  bad h := by
    cases h
    exact fun _ => rfl

theorem bind {f : α → Bytes → Scan β} (hp : Steady p) (hf : ∀ a, Steady (f a)) :
    Steady fun octets => (p octets).bind f where
  got h := by
    obtain ⟨a, mid, hfirst, hsecond⟩ := Scan.bind_eq_got h
    obtain ⟨front, rfl, hfront⟩ := hp.got hfirst
    obtain ⟨back, rfl, hback⟩ := (hf a).got hsecond
    refine ⟨front ++ back, (List.append_assoc ..).symm, ?_⟩
    intro more
    rw [List.append_assoc, hfront, Scan.bind, hback]
  bad h := by
    intro more
    rcases Scan.bind_eq_bad h with hfirst | ⟨a, mid, hfirst, hsecond⟩
    · rw [hp.bad hfirst, Scan.bind]
    · obtain ⟨front, rfl, hfront⟩ := hp.got hfirst
      rw [List.append_assoc, hfront, Scan.bind, (hf a).bad hsecond]

/-- One octet, whatever it is, and then a part. -/
theorem octet (hp : Steady p) : Steady fun octets => match octets with
    | [] => .more
    | _ :: rest => p rest where
  got {octets a rest} h := by
    cases octets with
    | nil => cases h
    | cons b octets =>
        obtain ⟨taken, rfl, hmore⟩ := hp.got h
        exact ⟨b :: taken, rfl, hmore⟩
  bad {octets e} h := by
    cases octets with
    | nil => cases h
    | cons b octets => exact hp.bad h

/-- What needs an octet at least takes the first. -/
theorem got_cons (hp : Steady p) (hnil : p [] = .more) {b : UInt8} {octets : Bytes} {a : α} {rest : Bytes}
    (h : p (b :: octets) = .got a rest) :
    ∃ taken, octets = taken ++ rest ∧ ∀ more, p (b :: (taken ++ more)) = .got a more := by
  obtain ⟨taken, heq, hmore⟩ := hp.got h
  cases taken with
  | nil =>
      have hgot : p [] = .got a [] := hmore []
      rw [hnil] at hgot
      cases hgot
  | cons b' taken =>
      obtain ⟨rfl, hoctets⟩ := List.cons.inj heq
      exact ⟨taken, hoctets, hmore⟩

end Steady

namespace Head

variable {p q : Bytes → Scan α}

/-- Which of two parts comes is decided by the first octet. -/
theorem steady_branch (hp : Steady p) (hq : Steady q) (hpnil : p [] = .more) (hqnil : q [] = .more)
    {f : Bytes → Scan α} (c : UInt8 → Prop) (hnil : f [] = .more)
    (hthen : ∀ b rest, c b → f (b :: rest) = p (b :: rest))
    (helse : ∀ b rest, ¬c b → f (b :: rest) = q (b :: rest)) : Steady f where
  got {octets a rest} h := by
    cases octets with
    | nil =>
        rw [hnil] at h
        cases h
    | cons b octets =>
        by_cases hb : c b
        · rw [hthen b octets hb] at h
          obtain ⟨taken, rfl, hmore⟩ := hp.got_cons hpnil h
          exact ⟨b :: taken, rfl, fun more => (hthen b _ hb).trans (hmore more)⟩
        · rw [helse b octets hb] at h
          obtain ⟨taken, rfl, hmore⟩ := hq.got_cons hqnil h
          exact ⟨b :: taken, rfl, fun more => (helse b _ hb).trans (hmore more)⟩
  bad {octets e} h := by
    intro more
    cases octets with
    | nil =>
        rw [hnil] at h
        cases h
    | cons b octets =>
        by_cases hb : c b
        · rw [hthen b octets hb] at h
          exact (hthen b _ hb).trans (hp.bad h more)
        · rw [helse b octets hb] at h
          exact (helse b _ hb).trans (hq.bad h more)

section BlankLines

theorem skipBlankLines_crlf (rest : Bytes) : skipBlankLines (cr :: lf :: rest) = skipBlankLines rest := by
  rw [skipBlankLines, if_pos rfl]
  exact if_pos rfl

theorem skipBlankLines_cr {b : UInt8} (h : b ≠ lf) (rest : Bytes) :
    skipBlankLines (cr :: b :: rest) = .bad .newLine := by
  rw [skipBlankLines, if_pos rfl]
  exact if_neg h

theorem skipBlankLines_lf (rest : Bytes) : skipBlankLines (lf :: rest) = skipBlankLines rest := by
  rw [skipBlankLines.eq_def]
  exact (if_neg (by decide)).trans (if_pos rfl)

theorem skipBlankLines_other {b : UInt8} (hcr : b ≠ cr) (hlf : b ≠ lf) (rest : Bytes) :
    skipBlankLines (b :: rest) = .got () (b :: rest) := by
  rw [skipBlankLines.eq_def]
  exact (if_neg hcr).trans (if_neg hlf)

/-- What comes behind blank lines. -/
theorem steady_skipBlankLines (hp : Steady p) (hnil : p [] = .more) :
    Steady fun octets => (skipBlankLines octets).bind fun _ rest => p rest where
  got {octets a rest} h := by
    induction octets using skipBlankLines.induct with
    | case1 => cases h
    | case2 => cases h
    | case3 octets ih =>
        rw [skipBlankLines_crlf] at h
        obtain ⟨taken, rfl, hmore⟩ := ih h
        refine ⟨cr :: lf :: taken, rfl, ?_⟩
        intro more
        rw [List.cons_append, List.cons_append, skipBlankLines_crlf, hmore]
    | case4 b octets hb =>
        rw [skipBlankLines_cr hb] at h
        cases h
    | case5 octets _ ih =>
        rw [skipBlankLines_lf] at h
        obtain ⟨taken, rfl, hmore⟩ := ih h
        refine ⟨lf :: taken, rfl, ?_⟩
        intro more
        rw [List.cons_append, skipBlankLines_lf, hmore]
    | case6 b octets hcr hlf =>
        rw [skipBlankLines_other hcr hlf] at h
        obtain ⟨taken, rfl, hmore⟩ := hp.got_cons hnil h
        refine ⟨b :: taken, rfl, ?_⟩
        intro more
        rw [List.cons_append, skipBlankLines_other hcr hlf]
        exact hmore more
  bad {octets e} h := by
    intro more
    induction octets using skipBlankLines.induct with
    | case1 => cases h
    | case2 => cases h
    | case3 octets ih =>
        rw [skipBlankLines_crlf] at h
        rw [List.cons_append, List.cons_append, skipBlankLines_crlf, ih h]
    | case4 b octets hb =>
        rw [skipBlankLines_cr hb] at h
        rw [List.cons_append, List.cons_append, skipBlankLines_cr hb]
        exact h
    | case5 octets _ ih =>
        rw [skipBlankLines_lf] at h
        rw [List.cons_append, skipBlankLines_lf, ih h]
    | case6 b octets hcr hlf =>
        rw [skipBlankLines_other hcr hlf] at h
        rw [List.cons_append, skipBlankLines_other hcr hlf]
        exact hp.bad h more

end BlankLines

section Parts

theorem lineEnd_lf (fault : HeadFault) (rest : Bytes) : lineEnd fault (lf :: rest) = .got () rest := by
  rw [lineEnd.eq_def]
  exact (if_neg (by decide)).trans (if_pos rfl)

theorem lineEnd_crlf (fault : HeadFault) (rest : Bytes) : lineEnd fault (cr :: lf :: rest) = .got () rest := by
  rw [lineEnd, if_pos rfl]
  exact if_pos rfl

theorem lineEnd_eq_got {fault : HeadFault} {octets rest : Bytes} {u : Unit} (h : lineEnd fault octets = .got u rest) :
    octets = lf :: rest ∨ octets = cr :: lf :: rest := by
  fun_cases lineEnd fault octets <;> simp_all [lineEnd]

theorem steady_lineEnd (fault : HeadFault) : Steady (lineEnd fault) where
  got {octets u rest} h := by
    rcases lineEnd_eq_got h with rfl | rfl
    · exact ⟨[lf], rfl, lineEnd_lf fault⟩
    · exact ⟨[cr, lf], rfl, lineEnd_crlf fault⟩
  bad {octets e} h := by
    intro more
    fun_cases lineEnd fault octets <;> simp_all [lineEnd]

/-- Octets are of a class, all of them or up to the first that is not. -/
theorem run_cases (isIn : UInt8 → Bool) (octets : Bytes) :
    octets.dropWhile isIn = [] ∨
      ∃ part b rest, octets = part ++ b :: rest ∧
        ∀ more, (part ++ b :: more).takeWhile isIn = part ∧ (part ++ b :: more).dropWhile isIn = b :: more := by
  cases hdrop : octets.dropWhile isIn with
  | nil => exact .inl rfl
  | cons b rest =>
      have hpart : ∀ x ∈ octets.takeWhile isIn, isIn x = true := List.all_eq_true.1 List.all_takeWhile
      have hb : ¬isIn b = true := by
        have hhead := List.head?_dropWhile_not isIn octets
        simpa [hdrop] using hhead
      refine .inr ⟨octets.takeWhile isIn, b, rest, ?_, ?_⟩
      · rw [← hdrop, List.takeWhile_append_dropWhile]
      · intro more
        rw [List.takeWhile_append_of_pos hpart, List.dropWhile_append_of_pos hpart, List.takeWhile_cons_of_neg hb,
          List.dropWhile_cons_of_neg hb, List.append_nil]
        exact ⟨rfl, rfl⟩

/-- Octets of a class, and a part behind them that needs another octet. -/
theorem steady_run {f : Bytes → Bytes → Scan α} (hf : ∀ part, Steady (f part)) (hnil : ∀ part, f part [] = .more)
    (isIn : UInt8 → Bool) : Steady fun octets => f (octets.takeWhile isIn) (octets.dropWhile isIn) where
  got {octets a rest} h := by
    rcases run_cases isIn octets with hall | ⟨part, b, behind, rfl, hrun⟩
    · rw [hall, hnil] at h
      cases h
    · rw [(hrun behind).1, (hrun behind).2] at h
      obtain ⟨taken, rfl, hmore⟩ := (hf part).got_cons (hnil part) h
      refine ⟨part ++ b :: taken, by simp, ?_⟩
      intro more
      rw [List.append_assoc, List.cons_append, (hrun _).1, (hrun _).2, hmore]
  bad {octets e} h := by
    intro more
    rcases run_cases isIn octets with hall | ⟨part, b, behind, rfl, hrun⟩
    · rw [hall, hnil] at h
      cases h
    · rw [(hrun behind).1, (hrun behind).2] at h
      rw [List.append_assoc, List.cons_append, (hrun _).1, (hrun _).2]
      exact (hf part).bad h more

theorem steady_word (isIn : UInt8 → Bool) (mark : UInt8) (fault : HeadFault) : Steady (word isIn mark fault) := by
  apply steady_run (f := fun part octets => match octets with
    | [] => .more
    | b :: rest => if b = mark ∧ part ≠ [] then .got part rest else .bad fault)
  · intro part
    apply steady_branch (.octet (.pure part)) (.octet (.refuse fault)) rfl rfl (fun b => b = mark ∧ part ≠ []) rfl
    · intro b rest hb
      exact if_pos hb
    · intro b rest hb
      exact if_neg hb
  · intro part
    rfl

theorem steady_headerValue : Steady headerValue := by
  apply steady_run (f := fun line octets => (lineEnd .headerValue octets).bind fun _ rest =>
    .got ((line.dropWhile isBlank).reverse.dropWhile isBlank).reverse rest)
  · intro line
    exact (steady_lineEnd _).bind fun _ => .pure _
  · intro line
    rfl

/-- What the version begins with. -/
theorem version_cases (octets : Bytes) :
    octets.length ≤ 7 ∨ ∃ front d rest, octets = front ++ d :: rest ∧ front.length = 7 := by
  by_cases h : octets.length ≤ 7
  · exact .inl h
  · refine .inr ⟨octets.take 7, octets[7], octets.drop 8, ?_, ?_⟩
    · simp
    · simp; omega

theorem version_append {front : Bytes} (h : front.length = 7) (d : UInt8) (rest : Bytes) :
    version (front ++ d :: rest) = digit front (d :: rest) := by
  have htake : (front ++ d :: rest).take 7 = front := List.take_left' h
  have hdrop : (front ++ d :: rest).drop 7 = d :: rest := List.drop_left' h
  simp only [version, htake, hdrop]

theorem version_of_le {octets : Bytes} (h : octets.length ≤ 7) :
    version octets = if octets.isPrefixOf (versionName) then .more else .bad .version := by
  simp only [version, List.drop_eq_nil_of_le h]

theorem steady_digit (front : Bytes) : Steady (digit front) := by
  have hone : Steady fun octets => match octets with
      | [] => .more
      | d :: rest =>
        if front = versionName ∧ d.toNat = 49 then .got 1 rest else (.bad .version : Scan Nat) := by
    apply steady_branch (.octet (.pure 1)) (.octet (.refuse .version)) rfl rfl
      (fun d => front = versionName ∧ d.toNat = 49) rfl
    · intro d rest hd
      exact if_pos hd
    · intro d rest hd
      exact if_neg hd
  apply steady_branch (.octet (.pure 0)) hone rfl rfl (fun d => front = versionName ∧ d.toNat = 48) rfl
  · intro d rest hd
    exact if_pos hd
  · intro d rest hd
    exact if_neg hd

/-- What does not begin a version goes on to be none. -/
theorem version_of_not_begun {octets : Bytes} (hshort : octets.length ≤ 7)
    (h : ¬octets <+: versionName) (more : Bytes) : version (octets ++ more) = .bad .version := by
  rcases version_cases (octets ++ more) with hlength | ⟨front, d, behind, heq, hfront⟩
  · have hnot : ¬(octets ++ more).isPrefixOf (versionName) = true := by
      rw [List.isPrefixOf_iff_prefix]
      exact fun hbegun => h ((List.prefix_append ..).trans hbegun)
    rw [version_of_le hlength, if_neg hnot]
  · have hprefix : octets <+: front :=
      List.prefix_of_prefix_length_le ⟨more, heq⟩ (List.prefix_append ..) (hfront ▸ hshort)
    have hne : front ≠ versionName := fun hfull => h (hfull ▸ hprefix)
    rw [heq, version_append hfront, digit, if_neg fun hd => hne hd.1, if_neg fun hd => hne hd.1]

theorem steady_version : Steady version where
  got {octets minor rest} h := by
    rcases version_cases octets with hshort | ⟨front, d, behind, rfl, hfront⟩
    · rw [version_of_le hshort] at h
      split at h <;> cases h
    · rw [version_append hfront] at h
      obtain ⟨taken, rfl, hmore⟩ := (steady_digit front).got_cons rfl h
      refine ⟨front ++ d :: taken, by simp, ?_⟩
      intro more
      rw [List.append_assoc, List.cons_append, version_append hfront, hmore]
  bad {octets e} h := by
    intro more
    rcases version_cases octets with hshort | ⟨front, d, behind, rfl, hfront⟩
    · rw [version_of_le hshort] at h
      split at h
      · cases h
      · next hnot =>
        cases h
        exact version_of_not_begun hshort (by rwa [List.isPrefixOf_iff_prefix] at hnot) more
    · rw [version_append hfront] at h
      rw [List.append_assoc, List.cons_append, version_append hfront]
      exact (steady_digit front).bad h more

end Parts

theorem steady_requestLine : Steady requestLine := by
  apply steady_skipBlankLines
  · apply (steady_word isToken space .token).bind
    intro method
    apply (steady_word isTarget space .token).bind
    intro target
    apply steady_version.bind
    intro minor
    apply (steady_lineEnd .newLine).bind
    intro _
    exact .pure _
  · rfl

theorem steady_headerLine : Steady headerLine := by
  have hblank : Steady fun octets => (lineEnd .newLine octets).bind fun _ rest => .got (none : Option Header) rest :=
    (steady_lineEnd .newLine).bind fun _ => .pure _
  have hnamed : Steady fun octets => (word isToken colon .headerName octets).bind fun name rest =>
      (headerValue rest).bind fun value rest => .got (some (⟨name, value⟩ : Header)) rest :=
    (steady_word isToken colon .headerName).bind fun name => steady_headerValue.bind fun value => .pure _
  apply steady_branch hblank hnamed rfl rfl (fun b => b = cr ∨ b = lf) rfl
  · intro b rest hb
    exact if_pos hb
  · intro b rest hb
    exact if_neg hb

theorem steady_headerLines (room : Nat) : Steady (headerLines room) := by
  induction room with
  | zero =>
      apply steady_headerLine.bind
      intro line
      cases line with
      | none => exact .pure _
      | some h => exact .refuse _
  | succ room ih =>
      apply steady_headerLine.bind
      intro line
      cases line with
      | none => exact .pure _
      | some h => exact ih.bind fun hs => .pure _

theorem steady_scan : Steady scan :=
  steady_requestLine.bind fun _ => (steady_headerLines maxHeaders).bind fun _ => .pure _

section Whole

variable {head : Head} {octets rest : Bytes}

/-- Header lines end with a blank line. -/
theorem headerLine_eq_blank (h : headerLine octets = .got none rest) : ∃ front, octets = front ++ lf :: rest := by
  cases octets with
  | nil => cases h
  | cons b octets =>
      rw [headerLine] at h
      split at h
      · obtain ⟨u, mid, hend, heq⟩ := Scan.bind_eq_got h
        cases heq
        rcases lineEnd_eq_got hend with heq | heq
        · exact ⟨[], heq⟩
        · exact ⟨[cr], heq⟩
      · obtain ⟨name, mid, -, hvalue⟩ := Scan.bind_eq_got h
        obtain ⟨value, mid', -, heq⟩ := Scan.bind_eq_got hvalue
        cases heq

theorem headerLines_eq_got {room : Nat} {headers : List Header} (h : headerLines room octets = .got headers rest) :
    ∃ front, octets = front ++ lf :: rest := by
  induction room generalizing octets headers with
  | zero =>
      obtain ⟨line, mid, hline, hrest⟩ := Scan.bind_eq_got h
      cases line with
      | none =>
          cases hrest
          exact headerLine_eq_blank hline
      | some header => cases hrest
  | succ room ih =>
      obtain ⟨line, mid, hline, hrest⟩ := Scan.bind_eq_got h
      cases line with
      | none =>
          cases hrest
          exact headerLine_eq_blank hline
      | some header =>
          obtain ⟨headers', behind, hheaders, heq⟩ := Scan.bind_eq_got hrest
          cases heq
          obtain ⟨taken, rfl, -⟩ := steady_headerLine.got hline
          obtain ⟨front, rfl⟩ := ih hheaders
          exact ⟨taken ++ front, (List.append_assoc ..).symm⟩

/-- The last octet of a head ends a line. -/
theorem scan_eq_got (h : scan octets = .got head rest) : ∃ front, octets = front ++ lf :: rest := by
  obtain ⟨line, mid, hline, hrest⟩ := Scan.bind_eq_got h
  obtain ⟨headers, behind, hheaders, hend⟩ := Scan.bind_eq_got hrest
  cases hend
  obtain ⟨front, rfl, -⟩ := steady_requestLine.got hline
  obtain ⟨back, rfl⟩ := headerLines_eq_got hheaders
  exact ⟨front ++ back, (List.append_assoc ..).symm⟩

/-- A head that some octets begin with is a head by itself. -/
theorem exists_whole (h : scan octets = .got head rest) :
    ∃ whole, octets = whole ++ rest ∧ scan whole = .got head [] := by
  obtain ⟨whole, heq, hmore⟩ := steady_scan.got h
  have hwhole := hmore []
  rw [List.append_nil] at hwhole
  exact ⟨whole, heq, hwhole⟩

/-- Whatever is cut off from a head, the front part needs more. -/
theorem scan_front {front back : Bytes} (h : scan (front ++ back) = .got head []) (hback : back ≠ []) :
    scan front = .more := by
  cases hfront : scan front with
  | more => rfl
  | bad e =>
      have hbad := steady_scan.bad hfront back
      rw [h] at hbad
      cases hbad
  | got head' rest =>
      obtain ⟨taken, rfl, hmore⟩ := steady_scan.got hfront
      have hgot := hmore (rest ++ back)
      rw [← List.append_assoc, h, Scan.got.injEq] at hgot
      exact absurd (List.append_eq_nil_iff.1 hgot.2.symm).2 hback

/-- Octets are not found to begin with a head if none of their front parts is one. -/
theorem scan_ne_got {all : Bytes} {limit : Nat}
    (hnone : ∀ whole head, whole <+: all.take limit → scan whole ≠ .got head [])
    (hfront : octets <+: all) (hsize : octets.length ≤ limit) : scan octets ≠ .got head rest := by
  intro h
  obtain ⟨whole, rfl, hwhole⟩ := exists_whole h
  have hbegins : whole <+: whole ++ rest := List.prefix_append ..
  have htaken : whole <+: all.take limit :=
    List.prefix_take_iff.2 ⟨hbegins.trans hfront, Nat.le_trans hbegins.length_le hsize⟩
  exact hnone whole head htaken hwhole

end Whole

end Head

end Workbench.Http
