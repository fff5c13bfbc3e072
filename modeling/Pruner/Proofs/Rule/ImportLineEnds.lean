import Pruner.Proofs.Rule.LineEnds

namespace Pruner.Text

section Order

variable {ts : List Text} {x z z' : Text}

theorem textLe_of_not (h : le x z = false) : le z x = true := by
  simpa [h] using textLe_total x z

/-- A sorted list has the texts up to `z` in front. -/
theorem filter_le_append (h : ts.Pairwise fun a b => le a b = true) (z : Text) :
    ts.filter (le · z) ++ ts.filter (!le · z) = ts := by
  have hsorted : (ts.filter (le · z) ++ ts.filter (!le · z)).Pairwise fun a b => le a b = true := by
    refine List.pairwise_append.mpr ⟨h.filter _, h.filter _, fun a ha b hb => ?_⟩
    exact textLe_trans (List.mem_filter.mp ha).2
      (textLe_of_not (by simpa using (List.mem_filter.mp hb).2))
  exact (List.filter_append_perm _ ts).eq_of_pairwise (fun _ _ _ _ => textLe_antisymm) hsorted h

/-- One more text comes after the texts up to it. -/
theorem sort_append_singleton (ts : List Text) (z : Text) :
    sort (ts ++ [z]) = (sort ts).filter (le · z) ++ z :: (sort ts).filter (!le · z) := by
  have hsorted : ((sort ts).filter (le · z) ++ z :: (sort ts).filter (!le · z)).Pairwise
      fun a b => le a b = true := by
    have hafter : ∀ b ∈ (sort ts).filter (!le · z), le z b = true :=
      fun b hb => textLe_of_not (by simpa using (List.mem_filter.mp hb).2)
    refine List.pairwise_append.mpr ⟨(sort_sorted ts).filter _,
      List.pairwise_cons.mpr ⟨hafter, (sort_sorted ts).filter _⟩, fun a ha b hb => ?_⟩
    have haz := (List.mem_filter.mp ha).2
    rcases List.mem_cons.mp hb with rfl | hb
    · exact haz
    · exact textLe_trans haz (hafter b hb)
  have hperm : List.Perm (sort (ts ++ [z]))
      ((sort ts).filter (le · z) ++ z :: (sort ts).filter (!le · z)) :=
    calc List.Perm (sort (ts ++ [z])) (ts ++ [z]) := sort_perm _
      List.Perm _ (z :: ts) := List.perm_append_singleton z ts
      List.Perm _ (z :: ((sort ts).filter (le · z) ++ (sort ts).filter (!le · z))) :=
        ((sort_perm ts).symm.trans (List.filter_append_perm _ _).symm).cons z
      List.Perm _ _ := List.perm_middle.symm
  exact hperm.eq_of_pairwise (fun _ _ _ _ => textLe_antisymm) (sort_sorted _) hsorted

/-- A greater text in the place of `z` comes after the texts between the two; everything else keeps
its place. -/
theorem exists_sort_append (hz : le z z' = true) (ts : List Text) :
    ∃ front between back, sort (ts ++ [z]) = front ++ (z :: between) ++ back ∧
      sort (ts ++ [z']) = front ++ (between ++ [z']) ++ back ∧
      ∀ x, x ∈ between ↔ x ∈ ts ∧ le x z = false ∧ le x z' = true := by
  have hmono {x : Text} (hx : le x z = true) : le x z' = true := textLe_trans hx hz
  have hupper : (sort ts).filter (!le · z) =
      (sort ts).filter (fun x => le x z' && !le x z) ++ (sort ts).filter (!le · z') := by
    rw [← filter_le_append ((sort_sorted ts).filter (!le · z)) z', List.filter_filter,
      List.filter_filter]
    congr 1
    refine List.filter_congr fun x _ => ?_
    by_cases hx : le x z = true
    · simp [hx, hmono hx]
    · simp [hx]
  have hlower : (sort ts).filter (le · z') =
      (sort ts).filter (le · z) ++ (sort ts).filter (fun x => le x z' && !le x z) := by
    rw [← filter_le_append ((sort_sorted ts).filter (le · z')) z, List.filter_filter,
      List.filter_filter]
    congr 1
    · refine List.filter_congr fun x _ => ?_
      by_cases hx : le x z = true
      · simp [hx, hmono hx]
      · simp [hx]
    · exact List.filter_congr fun x _ => Bool.and_comm _ _
  refine ⟨(sort ts).filter (le · z), (sort ts).filter (fun x => le x z' && !le x z),
    (sort ts).filter (!le · z'), ?_, ?_, fun x => ?_⟩
  · rw [sort_append_singleton, hupper]
    simp
  · rw [sort_append_singleton, hlower]
    simp
  · rw [List.mem_filter, (sort_perm ts).mem_iff, Bool.and_eq_true, Bool.not_eq_true',
      and_comm (a := le x z' = true)]

/-- What comes between two spellings of a line end: a text that goes on after a vertical tab or a
form feed. -/
theorem between_lineEnds_iff {w : Text} (hreturn : '\r' ∉ x) (hline : '\n' ∉ x) :
    le x (w ++ ['\n']) = false ∧ le x (w ++ ['\r', '\n']) = true ↔
      ∃ c rest, x = w ++ c :: rest ∧ (c = '\x0b' ∨ c = '\x0c') := by
  induction w generalizing x with
  | nil =>
    cases x with
    | nil => simp [le]
    | cons c rest =>
      rw [List.mem_cons, not_or] at hreturn hline
      have hcode (d : Char) : c = d ↔ c.toNat = d.toNat := Char.toNat_inj.symm
      have hne : c.toNat ≠ 10 := fun h => hline.1 ((hcode '\n').mpr h).symm
      have hnewline : le (c :: rest) ['\n'] = false ↔ 10 ≤ c.toNat := by
        simp [le, Ne.symm hline.1]
      have hcarriage : le (c :: rest) ['\r', '\n'] = true ↔ c.toNat < 13 := by
        simp [le, Ne.symm hreturn.1]
      have hcodes : (c = '\x0b' ∨ c = '\x0c') ↔ (c.toNat = 11 ∨ c.toNat = 12) :=
        or_congr (hcode '\x0b') (hcode '\x0c')
      rw [List.nil_append, List.nil_append, hnewline, hcarriage]
      constructor
      · intro h
        exact ⟨c, rest, rfl, hcodes.mpr (by omega)⟩
      · rintro ⟨d, more, hsplit, hd⟩
        obtain ⟨rfl, rfl⟩ := List.cons.inj hsplit
        have hcases := hcodes.mp hd
        omega
  | cons a w ih =>
    cases x with
    | nil => simp [le]
    | cons c rest =>
      rw [List.mem_cons, not_or] at hreturn hline
      by_cases hc : c = a
      · subst hc
        simpa [le] using ih hreturn.2 hline.2
      · simp [le, hc]

theorem textLe_append_left (w x z : Text) : le (w ++ x) (w ++ z) = le x z := by
  induction w with
  | nil => rfl
  | cons a w ih => simpa [le] using ih

theorem cons_eq_concat_iff {a : Text} : a :: ts = ts ++ [a] ↔ ∀ x ∈ ts, x = a := by
  induction ts with
  | nil => simp
  | cons b ts ih =>
    rw [List.cons_append, List.cons.injEq, List.forall_mem_cons, eq_comm (a := b)]
    refine and_congr_right fun hab => ?_
    rw [← ih, hab]

end Order

section Clauses

variable {w rest : Text} {c : Char}

theorem trim_continued_iff (hc : isBlank c = true) :
    trim (w ++ c :: rest) = trim w ↔ ∀ d ∈ rest, isBlank d = true := by
  constructor
  · intro h
    -- Trimming keeps the characters that are not blank, so both texts have the same number of them.
    have hcount := congrArg (List.countP (!isBlank ·)) h
    rw [countP_trim (fun d hd => by simp [hd]), countP_trim (fun d hd => by simp [hd]),
      List.countP_append, Nat.add_eq_left, List.countP_eq_zero] at hcount
    intro d hd
    simpa using hcount d (List.mem_cons_of_mem c hd)
  · intro h
    exact trim_append_right (List.forall_mem_cons.mpr ⟨hc, h⟩) w

/-- A text comes between the two spellings and is not trimmed to the same exactly if it goes on with
something visible. -/
theorem between_and_trim_ne_iff {x : Text} (hreturn : '\r' ∉ x) (hline : '\n' ∉ x) :
    (le x (w ++ ['\n']) = false ∧ le x (w ++ ['\r', '\n']) = true) ∧ trim x ≠ trim w ↔
      ∃ c rest, (c = '\x0b' ∨ c = '\x0c') ∧ x = w ++ c :: rest ∧ ∃ d ∈ rest, isBlank d = false := by
  have hvisible {c : Char} {rest : Text} (hc : c = '\x0b' ∨ c = '\x0c') :
      trim (w ++ c :: rest) ≠ trim w ↔ ∃ d ∈ rest, isBlank d = false := by
    have hblank : isBlank c = true := by rcases hc with rfl | rfl <;> rfl
    rw [ne_eq, trim_continued_iff hblank]
    simp
  rw [between_lineEnds_iff hreturn hline]
  constructor
  · rintro ⟨⟨c, rest, rfl, hc⟩, hne⟩
    exact ⟨c, rest, hc, rfl, (hvisible hc).mp hne⟩
  · rintro ⟨c, rest, hc, rfl, hd⟩
    exact ⟨⟨c, rest, rfl, hc⟩, (hvisible hc).mpr hd⟩

/-- What is appended without a comma goes to the last piece. -/
theorem exists_commaPieces_append (t : Text) :
    ∃ front w, ∀ e, ',' ∉ e → commaPieces (t ++ e) = front ++ [w ++ e] := by
  induction t using separator_induction ',' with
  | last s hs =>
    refine ⟨[], s, fun e he => ?_⟩
    rw [commaPieces_of_not_mem (by simp [hs, he]), List.nil_append]
  | cons s u hs ih =>
    obtain ⟨front, w, hpieces⟩ := ih
    refine ⟨s :: front, w, fun e he => ?_⟩
    rw [List.append_assoc, List.cons_append, commaPieces_comma hs, hpieces e he, List.cons_append]

end Clauses

end Pruner.Text

namespace Pruner.Import

open Pruner.Text Pruner.Line

/-- Some module goes on where the last one ends, after a vertical tab or a form feed: it comes after
the last one if that ends in a line feed, and before it if that ends in a carriage return. -/
def SortsApart (after : Text) : Prop :=
  ∃ w c rest, (commaPieces after).getLast? = some (w ++ ['\n']) ∧ (c = '\x0b' ∨ c = '\x0c') ∧
    w ++ c :: rest ∈ commaPieces after ∧ ∃ d ∈ rest, isBlank d = false

variable {line before after : Text}

theorem cutAtImport_crlf (line : Text) : cutAtWord? importWord false (crlf line) =
    (cutAtWord? importWord false line).map (Prod.map crlf crlf) :=
  cutAtWord?_crlf (by decide) (by decide) (by decide) false line

theorem map_trim_sort_crlf_iff {t : Text} (hreturn : '\r' ∉ t) (hline : '\n' ∉ t) :
    (sort (commaPieces (t ++ ['\r', '\n']))).map trim =
      (sort (commaPieces (t ++ ['\n']))).map trim ↔ ¬SortsApart (t ++ ['\n']) := by
  obtain ⟨front, w, hpieces⟩ := exists_commaPieces_append t
  have hle : le (w ++ ['\n']) (w ++ ['\r', '\n']) = true := by
    rw [textLe_append_left]
    decide
  obtain ⟨low, between, high, hsort, hsort', hbetween⟩ := exists_sort_append hle front
  have hplain {x : Text} (hx : x ∈ front) : '\r' ∉ x ∧ '\n' ∉ x := by
    have hmem : x ∈ commaPieces t := by
      rw [← List.append_nil t, hpieces [] (by simp)]
      exact List.mem_append_left _ hx
    exact ⟨fun h => hreturn ((piece_sublist hmem).subset h),
      fun h => hline ((piece_sublist hmem).subset h)⟩
  have htrim : trim (w ++ ['\n']) = trim w := trim_append_right (List.all_eq_true.mp (by decide)) w
  have htrim' : trim (w ++ ['\r', '\n']) = trim w :=
    trim_append_right (List.all_eq_true.mp (by decide)) w
  have hmoved : (sort (commaPieces (t ++ ['\r', '\n']))).map trim =
      (sort (commaPieces (t ++ ['\n']))).map trim ↔ ∀ x ∈ between, trim x = trim w := by
    rw [hpieces _ (by decide), hpieces _ (by decide), hsort, hsort']
    simp only [List.map_append, List.map_cons, List.map_nil, htrim, htrim']
    rw [List.append_left_inj, List.append_right_inj, eq_comm, cons_eq_concat_iff,
      List.forall_mem_map]
  have hapart : SortsApart (t ++ ['\n']) ↔ ∃ x ∈ between, trim x ≠ trim w := by
    rw [SortsApart, hpieces _ (by decide)]
    constructor
    · rintro ⟨w', c, rest, hlast, hc, hmem, hvisible⟩
      rw [List.getLast?_concat, Option.some.injEq, List.append_left_inj] at hlast
      subst hlast
      have hfront : w ++ c :: rest ∈ front := by
        rcases List.mem_append.mp hmem with hfront | hself
        · exact hfront
        · -- The last module itself ends in the line feed.
          rw [List.mem_singleton, List.append_right_inj, List.cons.injEq] at hself
          rcases hc with rfl | rfl <;> simp at hself
      obtain ⟨hplace, hne⟩ := (between_and_trim_ne_iff (hplain hfront).1 (hplain hfront).2).mpr
        ⟨c, rest, hc, rfl, hvisible⟩
      exact ⟨_, (hbetween _).mpr ⟨hfront, hplace⟩, hne⟩
    · rintro ⟨x, hx, hne⟩
      obtain ⟨hfront, hplace⟩ := (hbetween x).mp hx
      obtain ⟨c, rest, hc, rfl, hvisible⟩ :=
        (between_and_trim_ne_iff (hplain hfront).1 (hplain hfront).2).mp ⟨hplace, hne⟩
      exact ⟨w, c, rest, List.getLast?_concat, hc, List.mem_append_left _ hfront, hvisible⟩
  rw [hmoved, hapart]
  simp

/-- The line end stands after the modules. -/
theorem exists_clauses (hl : IsLine line) (he : EndsLine line)
    (hcut : cutAtWord? importWord false line = some (before, after)) :
    ∃ t, '\n' ∉ t ∧ after = t ++ ['\n'] := by
  have hline := (cutAtWord?_eq_some hcut).1
  rcases List.eq_nil_or_concat after with rfl | ⟨t, c, rfl⟩
  · have hlast : line.getLast? = some 't' := by
      rw [hline, List.append_nil, List.getLast?_append]
      rfl
    rw [EndsLine, hlast] at he
    simp at he
  · rw [List.concat_eq_append, ← List.append_assoc] at hline
    have hc : c = '\n' := by simpa [EndsLine, hline] using he
    have ht := hl.newline_last
    rw [hline, List.dropLast_concat] at ht
    exact ⟨t, fun hmem => ht (List.mem_append_right _ hmem), by rw [hc, List.concat_eq_append]⟩

/-- The lines of the modules are those of the other spelling unless two modules change places. -/
theorem ownLines_crlf_iff (hl : IsLine line) (he : EndsLine line) (hreturn : '\r' ∉ line)
    (hcut : cutAtWord? importWord false line = some (before, after)) :
    (ownLines (crlf line) (crlf before) (crlf after)).flatten =
      crlf (ownLines line before after).flatten ↔ ¬SortsApart after := by
  have hcut' : cutAtWord? importWord false (crlf line) = some (crlf before, crlf after) := by
    rw [cutAtImport_crlf, hcut]
    rfl
  have hbefore := newline_not_mem_before hl hcut
  have hlists : (ownLines (crlf line) (crlf before) (crlf after)).flatten =
      crlf (ownLines line before after).flatten ↔
        ownLines (crlf line) (crlf before) (crlf after) = (ownLines line before after).map crlf := by
    constructor
    · intro h
      rw [← lines_ownLines hl.crlf he.crlf hcut', h, lines_crlf, lines_ownLines hl he hcut]
    · intro h
      rw [h, crlf_flatten]
  have hmap : (ownLines line before after).map crlf =
      ((sort (commaPieces after)).map trim).map fun x =>
        before ++ "import ".toList ++ x ++ ending (crlf line) := by
    rw [ownLines, List.map_map, List.map_map]
    refine List.map_congr_left fun x hx => ?_
    have hclause : '\n' ∉ trim x :=
      newline_not_mem_clause hl hcut ((sort_perm _).mem_iff.mp hx)
    rw [Function.comp_apply, Function.comp_apply, crlf_append, ending_crlf,
      crlf_of_not_mem (by simp [hbefore, hclause])]
  have hinjective : Function.Injective fun x : Text =>
      before ++ "import ".toList ++ x ++ ending (crlf line) := by
    intro x y h
    exact List.append_cancel_left (List.append_cancel_right h)
  have hown : ownLines (crlf line) (crlf before) (crlf after) =
      ((sort (commaPieces (crlf after))).map trim).map fun x =>
        before ++ "import ".toList ++ x ++ ending (crlf line) := by
    rw [ownLines, crlf_of_not_mem hbefore, List.map_map]
    rfl
  obtain ⟨t, hnewline, rfl⟩ := exists_clauses hl he hcut
  have hplain : '\r' ∉ t := by
    intro hmem
    apply hreturn
    rw [(cutAtWord?_eq_some hcut).1]
    exact List.mem_append_right _ (List.mem_append_left _ hmem)
  rw [hlists, hown, hmap, (List.map_injective_iff.mpr hinjective).eq_iff, crlf_line hnewline,
    crlf_nil, map_trim_sort_crlf_iff hplain hnewline]

theorem hasForbidden_crlf (line : Text) : hasForbidden (crlf line) = hasForbidden line := by
  rw [hasForbidden, hasForbidden, contains_crlf (by decide), contains_crlf (by decide),
    contains_crlf (by decide), contains_crlf (by decide)]

theorem isFrom_crlf (line : Text) : isFrom (crlf line) = isFrom line := by
  rw [isFrom, isFrom, trimLeft_crlf, startsWith_crlf (by decide) (by decide)]

theorem package_crlf (line : Text) : package (crlf line) = package line := by
  rw [package, package, hasForbidden_crlf, isFrom_crlf, trimLeft_crlf,
    startsWith_crlf (by decide) (by decide), words_crlf]

/-- Two modules of a line change places. -/
def ReordersModules (line : Text) : Prop :=
  ∃ before after, cutAtWord? importWord false line = some (before, after) ∧ SortsApart after

theorem ReordersModules.endsLine (h : ReordersModules line) (hl : IsLine line) : EndsLine line := by
  obtain ⟨before, after, hcut, w, c, rest, hlast, -⟩ := h
  have hnewline : '\n' ∈ line := by
    have hafter : '\n' ∈ after :=
      (infix_of_mem_commaPieces (List.mem_of_mem_getLast? hlast)).subset (by simp)
    rw [(cutAtWord?_eq_some hcut).1]
    exact List.mem_append_right _ hafter
  rcases hl.cases with ⟨s, -, rfl⟩ | hbare
  · exact endsLine_append s
  · exact absurd hnewline hbare

theorem breakUp_crlf (hl : IsLine line) (he : EndsLine line) (hreturn : '\r' ∉ line) :
    Mirrors (¬ReordersModules line) (breakUp line) (breakUp (crlf line)) := by
  rw [breakUp, breakUp, hasForbidden_crlf, isFrom_crlf, contains_crlf (by decide)]
  split
  · exact mirrors_error _ _
  · have hending : (ending line).isEmpty = false := by
      have hends : EndsLine (ending line) := he.append_ending []
      rw [List.isEmpty_eq_false_iff]
      rintro hnil
      simp [EndsLine, hnil] at hends
    have hending' : (ending (crlf line)).isEmpty = false := by
      rw [ending_crlf, isEmpty_crlf, hending]
    dsimp only
    rw [hending, hending', if_neg Bool.false_ne_true, if_neg Bool.false_ne_true, cutAtImport_crlf]
    cases hcut : cutAtWord? importWord false line with
    | none => exact mirrors_error _ _
    | some cut =>
      obtain ⟨before, after⟩ := cut
      have hmoves : ReordersModules line ↔ SortsApart after := by
        constructor
        · rintro ⟨before', after', hcut', hmoved⟩
          rw [hcut, Option.some.injEq, Prod.mk.injEq] at hcut'
          rwa [hcut'.2]
        · exact fun hmoved => ⟨before, after, hcut, hmoved⟩
      have hlists := ownLines_crlf_iff hl he hreturn hcut
      rw [ownLines, ownLines, ← List.flatMap_def, ← List.flatMap_def, ← hmoves] at hlists
      exact hlists

/-- The names that are kept are the same, and the line ends as before. -/
theorem filterFrom_crlf (hl : IsLine line) (unused : List Text) :
    Mirrors True (filterFrom line unused) (filterFrom (crlf line) unused) := by
  cases hcut : cutAtWord? importWord false line with
  | none =>
    rw [filterFrom, filterFrom, cutAtImport_crlf, hcut]
    exact mirrors_error True _
  | some cut =>
    obtain ⟨before, after⟩ := cut
    have hbefore := crlf_of_not_mem (newline_not_mem_before hl hcut)
    have hcut' : cutAtWord? importWord false (crlf line) = some (before, crlf after) := by
      rw [cutAtImport_crlf, hcut, Option.map_some, Prod.map, hbefore]
    cases hbase : baseModule? false before with
    | none =>
      rw [filterFrom, filterFrom, hcut, hcut']
      dsimp only
      rw [hbase]
      exact mirrors_error True _
    | some base =>
      have htrim : trim (crlf after) = trim after := by
        rw [trim_crlf]
        refine crlf_of_not_mem (hl.newline_not_mem ?_ (trim_solid after))
        obtain ⟨a, b, -, -, hsplit⟩ := exists_trim after
        rw [(cutAtWord?_eq_some hcut).1]
        exact List.IsInfix.trans ⟨a, b, hsplit.symm⟩ (List.suffix_append _ after).isInfix
      have hkept : keptNames base (crlf after) unused = keptNames base after unused := by
        rw [keptNames, keptNames, htrim]
      rw [filterFrom_of_cut unused hcut hbase, filterFrom_of_cut unused hcut' hbase, hkept]
      split
      · rw [passFor_crlf]
        exact mirrors_ok trivial _
      · have hnames : crlf (withNames line before (sort (keptNames base after unused))) =
            withNames (crlf line) before (sort (keptNames base after unused)) := by
          have hplain : ∀ z ∈ sort (keptNames base after unused), '\n' ∉ z := by
            intro z hz hmem
            obtain ⟨x, hx, hsub⟩ := exists_of_mem_keptNames ((sort_perm _).mem_iff.mp hz)
            exact newline_not_mem_clause hl hcut hx (hsub hmem)
          rw [withNames, withNames, crlf_append, ending_crlf,
            crlf_of_not_mem (newline_not_mem_names hl hcut hplain)]
        rw [← hnames]
        exact mirrors_ok trivial _

/-- A line is mirrored unless it is split into modules that change places. -/
theorem filterUnused_crlf (hl : IsLine line) (hreturn : '\r' ∉ line) (hhash : '#' ∉ line)
    (unused allowed : List Text) (removeAll : Bool) (previous : Text) :
    Mirrors (¬(isPartialImport line previous = false ∧ ',' ∈ line ∧ isFrom line = false ∧
        ReordersModules line))
      (filterUnused line unused removeAll allowed previous)
      (filterUnused (crlf line) unused removeAll allowed (crlf previous)) := by
  have hpartial := isPartialImport_crlf hl hreturn hhash previous
  by_cases he : EndsLine line
  · rw [filterUnused, filterUnused, hpartial, contains_crlf (by decide), isFrom_crlf, package_crlf]
    split
    · rename_i hpart
      exact mirrors_ok (by simp [hpart]) line
    · rename_i hwhole
      rw [Bool.not_eq_true] at hwhole
      split
      · rename_i hmodules
        simp only [Bool.and_eq_true, List.contains_iff_mem, Bool.not_eq_true'] at hmodules
        simpa only [hwhole, hmodules, true_and] using breakUp_crlf hl he hreturn
      · rename_i hnames
        have hsame : ¬(isPartialImport line previous = false ∧ ',' ∈ line ∧ isFrom line = false ∧
            ReordersModules line) := by
          rintro ⟨-, hcomma, hfrom, -⟩
          exact hnames (by simp [hcomma, hfrom])
        rw [eq_true hsame]
        cases package line with
        | error fault => exact mirrors_error True fault
        | ok found =>
          change Mirrors True (if _ then _ else if _ then _ else _)
            (if _ then _ else if _ then _ else _)
          split
          · exact mirrors_ok trivial line
          · split
            · exact filterFrom_crlf hl unused
            · rw [passFor_crlf]
              exact mirrors_ok trivial _
  · -- Without a line feed there is one spelling only.
    have hbare := hl.bare he
    have hedit : filterUnused (crlf line) unused removeAll allowed (crlf previous) =
        filterUnused line unused removeAll allowed previous := by
      rw [crlf_of_not_mem hbare] at hpartial ⊢
      rw [filterUnused, filterUnused, hpartial]
    rw [hedit]
    refine mirrors_self (fun hmoved => he (hmoved.2.2.2.endsLine hl)) fun piece hpiece hmem => ?_
    rcases mem_of_filterUnused hpiece hmem with hmem | hmem
    · exact hbare hmem
    · exact absurd hmem (by decide)

end Pruner.Import
