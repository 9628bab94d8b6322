import Qemuctl.Go.Strings

/-!
# Go's `path/filepath`, on Unix

`StartContext` puts the control socket at `filepath.Join(socketDir, name+".sock")`, and
`AttachContext` names an instance after `filepath.Base(socketPath)`. `Join`, `Clean` and
`Base` are modelled from their documented lexical rules: `Clean` drops empty and `.`
elements, cancels `..` against the element before it (keeping leading ones of a relative path
and dropping those of a rooted one) and returns `"."` for an empty result; `Join` cleans the
slash-join of its arguments from the first non-empty one; `Base` is the last element once
trailing slashes are gone.

**`base_join_elem`** is the fact the attach path needs: whatever the directory, the last
element of `Join(dir, elem)` is `elem`, for an `elem` that is a plain file name.
-/

set_option autoImplicit false

namespace Qemuctl

namespace Filepath

/-- One element of `Clean`'s pass, on the kept elements in reverse order. -/
def cleanStep (rooted : Bool) (st : List String) (e : String) : List String :=
  if e = "" ∨ e = "." then st
  else if e = ".." then
    match st with
    | top :: rest => if top = ".." then ".." :: st else rest
    | [] => if rooted then [] else [".."]
  else e :: st

def clean (path : String) : String :=
  if path = "" then "." else
  let rooted := Strings.hasPrefix path "/"
  let body := Strings.join ((Strings.split path '/').foldl (cleanStep rooted) []).reverse "/"
  if rooted then "/" ++ body else if body = "" then "." else body

def join (elems : List String) : String :=
  match elems.dropWhile (· = "") with
  | [] => ""
  | rest => clean (Strings.join rest "/")

def base (path : String) : String :=
  if path = "" then "." else
  let trimmed := (path.data.reverse.dropWhile (· = '/')).reverse
  if trimmed = [] then "/" else ⟨(trimmed.reverse.takeWhile (· ≠ '/')).reverse⟩

/-! ## The last element of a join -/

/-- A plain file name: not empty, no slash, and neither `.` nor `..`. -/
structure PlainElem (x : String) : Prop where
  ne_empty : x ≠ ""
  no_slash : '/' ∉ x.data
  ne_dot : x ≠ "."
  ne_dotdot : x ≠ ".."

theorem splitChars_append_sep_last {c : Char} {x : List Char} (hx : c ∉ x) :
    ∀ l : List Char, Strings.splitChars c (l ++ c :: x) = Strings.splitChars c l ++ [x]
  | [] => by simp [Strings.splitChars, Strings.splitChars_of_not_mem x hx]
  | y :: l => by
    have ih := splitChars_append_sep_last hx l
    obtain ⟨w, ws, hw⟩ := List.exists_cons_of_ne_nil (Strings.splitChars_ne_nil c l)
    by_cases hy : y = c
    · simp [Strings.splitChars, hy, ih]
    · simp [Strings.splitChars, hy, ih, hw, Strings.consHead]

theorem join_append_singleton (sep x : String) :
    ∀ l : List String, l ≠ [] → Strings.join (l ++ [x]) sep = Strings.join l sep ++ sep ++ x
  | [a], _ => rfl
  | a :: b :: rest, _ => by
    rw [List.cons_append, List.cons_append, Strings.join_cons_cons, ← List.cons_append,
      join_append_singleton sep x (b :: rest) (by simp), Strings.join_cons_cons]
    simp [String.append_assoc]

/-- `s` ends with the element `x`, after nothing or after a slash. -/
def EndsWithElem (s x : String) : Prop :=
  ∃ pre : List Char, s.data = pre ++ x.data ∧ (pre = [] ∨ pre.getLast? = some '/')

theorem endsWithElem_join (x : String) (st : List String) :
    EndsWithElem (Strings.join (st ++ [x]) "/") x := by
  rcases List.eq_nil_or_concat st with rfl | ⟨l, y, rfl⟩
  · exact ⟨[], by simp, Or.inl rfl⟩
  · refine ⟨(Strings.join (l ++ [y]) "/").data ++ ['/'], ?_, Or.inr (by simp)⟩
    rw [join_append_singleton "/" x _ (by simp)]
    simp

theorem EndsWithElem.slash {s x : String} (h : EndsWithElem s x) : EndsWithElem ("/" ++ s) x := by
  obtain ⟨pre, hs, hpre⟩ := h
  refine ⟨'/' :: pre, by simp [hs], Or.inr ?_⟩
  rcases hpre with rfl | hl
  · rfl
  · obtain ⟨init, rfl⟩ : ∃ init, pre = init ++ ['/'] :=
      ⟨pre.dropLast, (List.dropLast_append_getLast? _ hl).symm⟩
    rw [← List.cons_append, List.getLast?_concat]

theorem EndsWithElem.ne_empty {s x : String} (h : EndsWithElem s x) (hx : x ≠ "") : s ≠ "" := by
  obtain ⟨pre, hs, -⟩ := h
  intro e
  subst e
  exact hx (String.ext (List.append_eq_nil.mp hs.symm).2)

theorem clean_endsWithElem {path x : String} (hx : PlainElem x) (elems : List String)
    (hsplit : Strings.split path '/' = elems ++ [x]) : EndsWithElem (clean path) x := by
  have hfold : ∀ r : Bool, (Strings.split path '/').foldl (cleanStep r) [] =
      x :: elems.foldl (cleanStep r) [] := fun r => by
    simp [hsplit, cleanStep, hx.ne_empty, hx.ne_dot, hx.ne_dotdot]
  have hbody : ∀ r : Bool,
      EndsWithElem (Strings.join ((Strings.split path '/').foldl (cleanStep r) []).reverse "/") x :=
    fun r => by rw [hfold, List.reverse_cons]; exact endsWithElem_join x _
  have hpath : path ≠ "" := by
    rintro rfl
    have := congrArg List.getLast? hsplit
    simp [Strings.split, Strings.splitChars] at this
    exact hx.ne_empty this.symm
  unfold clean
  rw [if_neg hpath]
  dsimp only
  split
  · exact (hbody _).slash
  · rw [if_neg ((hbody _).ne_empty hx.ne_empty)]
    exact hbody _

/-- `Base` of a path that ends with the plain name `x`, after nothing or a slash. -/
theorem base_of_last {pre : List Char} {x : String} (hx : PlainElem x)
    (hpre : pre = [] ∨ pre.getLast? = some '/') : base ⟨pre ++ x.data⟩ = x := by
  have hxne : x.data ≠ [] := fun h => hx.ne_empty (String.ext h)
  obtain ⟨c, cs, hc⟩ := List.exists_cons_of_ne_nil (List.reverse_ne_nil_iff.mpr hxne)
  have hc' : c ≠ '/' := by
    intro e
    apply hx.no_slash
    rw [← List.mem_reverse, hc, e]
    exact List.mem_cons_self _ _
  have hdrop : (x.data.reverse ++ pre.reverse).dropWhile (· = '/') = x.data.reverse ++ pre.reverse := by
    rw [hc, List.cons_append, List.dropWhile_cons_of_neg (by simpa using hc')]
  have htake : (x.data.reverse ++ pre.reverse).takeWhile (· ≠ '/') = x.data.reverse := by
    rw [List.takeWhile_append_of_pos (fun a ha => by
      have : a ≠ '/' := fun e => hx.no_slash (List.mem_reverse.mp (e ▸ ha))
      simpa using this)]
    rcases hpre with rfl | hl
    · simp
    · obtain ⟨init, rfl⟩ : ∃ init, pre = init ++ ['/'] :=
        ⟨pre.dropLast, (List.dropLast_append_getLast? _ hl).symm⟩
      simp
  have hne : pre ++ x.data ≠ [] := by simp [hxne]
  have hpath : (⟨pre ++ x.data⟩ : String) ≠ "" := fun h => hne (congrArg String.data h)
  simp only [base, if_neg hpath, List.reverse_append, hdrop, List.reverse_reverse, if_neg hne,
    htake]

/-- **The last element of `Join(dir, x)` is `x`**, for a plain file name `x`. -/
theorem base_join_elem (dir : String) {x : String} (hx : PlainElem x) :
    base (join [dir, x]) = x := by
  have hends : EndsWithElem (join [dir, x]) x := by
    by_cases hd : dir = ""
    · subst hd
      have : join ["", x] = clean x := by simp [join, List.dropWhile, hx.ne_empty]
      rw [this]
      exact clean_endsWithElem hx [] (by
        simp [Strings.split, Strings.splitChars_of_not_mem _ hx.no_slash])
    · have : join [dir, x] = clean (dir ++ "/" ++ x) := by
        simp [join, List.dropWhile, hd, Strings.join_cons_cons]
      rw [this]
      exact clean_endsWithElem hx (Strings.split dir '/') (by
        simp [Strings.split, splitChars_append_sep_last hx.no_slash])
  obtain ⟨pre, hs, hpre⟩ := hends
  rw [show join [dir, x] = ⟨pre ++ x.data⟩ from String.ext hs]
  exact base_of_last hx hpre

/-! ## A join is never empty -/

theorem clean_ne_empty (path : String) : clean path ≠ "" := by
  unfold clean
  split
  · decide
  dsimp only
  split
  · exact fun h => by simpa using congrArg String.data h
  · split
    · decide
    · assumption

/-- `Join` is empty only when every element is. -/
theorem join_ne_empty {elems : List String} {x : String} (hx : x ∈ elems) (hne : x ≠ "") :
    join elems ≠ "" := by
  unfold join
  split
  · rename_i hd
    exact absurd (List.dropWhile_eq_nil_iff.1 hd x hx) (by simpa using hne)
  · exact clean_ne_empty _

end Filepath

end Qemuctl
