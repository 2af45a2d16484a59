import Caplv.Text

namespace Caplv.Path

open Text

-- path.Clean and path.Join (filepath.Join on the same systems), on the elements between
-- the slashes.
def elements (path : String) : List (List Char) := path.toList.splitOn '/'

-- The elements kept so far, the last one first, and the next element.
def push (rooted : Bool) (kept : List (List Char)) (element : List Char) : List (List Char) :=
  if element = [] ∨ element = ['.'] then kept
  else if element = ['.', '.'] then
    match kept with
    | [] => if rooted then [] else [element]
    | last :: rest => if last = ['.', '.'] then element :: last :: rest else rest
  else element :: kept

def rooted (path : String) : Bool := path.toList.head? == some '/'

def kept (path : String) : List (List Char) := (elements path).foldl (push (rooted path)) []

def render (rooted : Bool) (kept : List (List Char)) : String :=
  match rooted, kept with
  | false, [] => "."
  | false, kept => String.ofList (['/'].intercalate kept.reverse)
  | true, kept => String.ofList ('/' :: ['/'].intercalate kept.reverse)

def clean (path : String) : String := render (rooted path) (kept path)

-- Empty parts are ignored, and without any other part the result is empty.
def join (parts : List String) : String :=
  match parts.filter (· ≠ "") with
  | [] => ""
  | part :: rest => clean (rest.foldl (fun path next => path ++ "/" ++ next) part)

-- A name of one element, as a file has it in its directory.
def IsName (name : String) : Prop :=
  name ≠ "" ∧ name ≠ "." ∧ name ≠ ".." ∧ '/' ∉ name.toList

instance (name : String) : Decidable (IsName name) := inferInstanceAs (Decidable (_ ∧ _))

example : join ["/cache/", "../etc"] = "/etc" := by decide

example : join ["cache", "."] = "cache" := by decide

section Elements

theorem elements_append (path next : String) :
    elements (path ++ "/" ++ next) = elements path ++ elements next := by
  have hchars : (path ++ "/" ++ next).toList = path.toList ++ '/' :: next.toList := by simp
  rw [elements, hchars]
  exact List.splitOnP_append_cons path.toList next.toList (beq_self_eq_true '/')

theorem elements_name {name : String} (h : IsName name) : elements name = [name.toList] := by
  apply List.splitOnP_eq_singleton
  intro c hc
  by_contra hslash
  have hslash : c = '/' := by simpa using hslash
  exact h.2.2.2 (hslash ▸ hc)

theorem slash_notMem_of_mem_split (chars : List Char) : ∀ element ∈ chars.splitOn '/', '/' ∉ element := by
  induction chars with
  | nil => simp [List.splitOn_nil]
  | cons c rest ih =>
    rw [List.splitOn, List.splitOnP_cons_eq_if_modifyHead]
    have hsplit : rest.splitOnP (· == '/') = rest.splitOn '/' := rfl
    rw [hsplit]
    by_cases hc : c = '/'
    · simpa [hc] using ih
    · have hne : (c == '/') = false := by simpa using hc
      rw [hne, if_neg Bool.false_ne_true]
      cases hrest : rest.splitOn '/' with
      | nil => simp
      | cons first others =>
        rw [hrest] at ih
        intro element helement
        rcases List.mem_cons.mp helement with rfl | hmem
        · have hfirst := ih first List.mem_cons_self
          simpa [eq_comm, hc] using hfirst
        · exact ih element (List.mem_cons_of_mem first hmem)

def Proper (kept : List (List Char)) : Prop := ∀ element ∈ kept, '/' ∉ element ∧ element ≠ []

theorem Proper.push {kept : List (List Char)} (h : Proper kept) (rooted : Bool) {element : List Char}
    (helement : '/' ∉ element) : Proper (Path.push rooted kept element) := by
  unfold Path.push
  split
  · exact h
  · rename_i hne
    have hproper : '/' ∉ element ∧ element ≠ [] := ⟨helement, fun hnil => hne (.inl hnil)⟩
    split
    · cases kept with
      | nil =>
        cases rooted with
        | true => exact h
        | false => exact fun e he => (List.mem_singleton.mp he) ▸ hproper
      | cons last rest =>
        change Proper (if last = ['.', '.'] then _ else _)
        split
        · exact fun e he => (List.mem_cons.mp he).elim (fun heq => heq ▸ hproper) (h e)
        · exact fun e he => h e (List.mem_cons_of_mem last he)
    · exact fun e he => (List.mem_cons.mp he).elim (fun heq => heq ▸ hproper) (h e)

theorem Proper.foldl {rooted : Bool} {elements : List (List Char)}
    (helements : ∀ element ∈ elements, '/' ∉ element) {kept : List (List Char)} (h : Proper kept) :
    Proper (elements.foldl (Path.push rooted) kept) := by
  induction elements generalizing kept with
  | nil => exact h
  | cons element rest ih =>
    apply ih
    · exact fun e he => helements e (List.mem_cons_of_mem element he)
    · exact h.push rooted (helements element List.mem_cons_self)

theorem proper_kept (path : String) : Proper (kept path) :=
  Proper.foldl (slash_notMem_of_mem_split path.toList) (by simp [Proper])

end Elements

section Names

variable {name : String}

theorem push_name (rooted : Bool) (kept : List (List Char)) (h : IsName name) :
    push rooted kept name.toList = name.toList :: kept := by
  obtain ⟨hempty, hdot, hdots, -⟩ := h
  have hne (other : String) (hother : name ≠ other) : name.toList ≠ other.toList :=
    fun heq => hother (String.toList_inj.mp heq)
  have hskip : ¬ (name.toList = [] ∨ name.toList = ['.']) := by
    rintro (hnil | hone)
    · exact hne "" hempty hnil
    · exact hne "." hdot hone
  have hup : name.toList ≠ ['.', '.'] := hne ".." hdots
  unfold push
  rw [if_neg hskip, if_neg hup]

theorem rooted_append (path next : String) (h : path ≠ "") : rooted (path ++ "/" ++ next) = rooted path := by
  have hne : path.toList ≠ [] := fun hnil => h (String.toList_inj.mp hnil)
  unfold rooted
  rw [String.toList_append, String.toList_append, List.append_assoc, List.head?_append_of_ne_nil _ hne]

theorem kept_append {path name : String} (hpath : path ≠ "") (h : IsName name) :
    kept (path ++ "/" ++ name) = name.toList :: kept path := by
  unfold kept
  rw [rooted_append path name hpath, elements_append, elements_name h, List.foldl_append]
  exact push_name _ _ h

theorem rooted_name (h : IsName name) : rooted name = false := by
  unfold rooted
  cases hchars : name.toList with
  | nil => rfl
  | cons c rest =>
    have hc : c ≠ '/' := fun heq => h.2.2.2 (by rw [hchars, heq]; exact List.mem_cons_self)
    simpa using hc

theorem kept_name (h : IsName name) : kept name = [name.toList] := by
  unfold kept
  rw [elements_name h]
  exact push_name _ _ h

theorem elements_render {rooted : Bool} {kept : List (List Char)} (hkept : Proper kept) (hne : kept ≠ []) :
    (elements (render rooted kept)).reverse = kept ++ if rooted then [[]] else [] := by
  have hsplit : (['/'].intercalate kept.reverse).splitOn '/' = kept.reverse := by
    apply List.splitOn_intercalate
    · exact fun element h => (hkept element (List.mem_reverse.mp h)).1
    · simpa using hne
  cases rooted with
  | false =>
    cases kept with
    | nil => exact absurd rfl hne
    | cons last rest =>
      have hrender : render false (last :: rest) =
          String.ofList (['/'].intercalate (last :: rest).reverse) := rfl
      rw [hrender, elements, String.toList_ofList, hsplit]
      simp
  | true =>
    have hrender : render true kept = String.ofList ('/' :: ['/'].intercalate kept.reverse) := rfl
    have hroot : ('/' :: ['/'].intercalate kept.reverse).splitOn '/' = [] :: kept.reverse := by
      rw [List.splitOn, List.splitOnP_cons_eq_if_modifyHead]
      exact congrArg ([] :: ·) hsplit
    rw [hrender, elements, String.toList_ofList, hroot]
    simp

theorem clean_ne_empty (path : String) : clean path ≠ "" := by
  intro hempty
  by_cases hkept : kept path = []
  · rw [clean, hkept] at hempty
    cases hrooted : rooted path <;> rw [hrooted] at hempty <;> exact absurd hempty (by decide)
  · have hsplit := @elements_render (rooted path) _ (proper_kept path) hkept
    rw [show render (rooted path) (kept path) = "" from hempty] at hsplit
    cases hlist : kept path with
    | nil => exact hkept hlist
    | cons first rest =>
      rw [hlist] at hsplit
      have hfirst : [] = first := (List.cons.inj hsplit).1
      exact (proper_kept path first (hlist ▸ List.mem_cons_self)).2 hfirst.symm

theorem join_ne_empty {parts : List String} {part : String} (hmem : part ∈ parts) (hpart : part ≠ "") :
    join parts ≠ "" := by
  have hfilter : part ∈ parts.filter (· ≠ "") := List.mem_filter.mpr ⟨hmem, by simpa using hpart⟩
  unfold join
  split
  · rename_i hnil
    rw [hnil] at hfilter
    cases hfilter
  · exact clean_ne_empty _

theorem elements_clean {path : String} {last : List Char} {rest : List (List Char)}
    (h : kept path = last :: rest) : ∃ front, (elements (clean path)).reverse = last :: (rest ++ front) := by
  rw [clean, elements_render (proper_kept path) (h ▸ List.cons_ne_nil last rest), h]
  exact ⟨_, rfl⟩

theorem elements_join_name (dir : String) (h : IsName name) :
    ∃ front, (elements (join [dir, name])).reverse = name.toList :: front := by
  by_cases hdir : dir = ""
  · have hjoin : join [dir, name] = clean name := by simp [join, hdir, h.1]
    obtain ⟨front, hfront⟩ := elements_clean (kept_name h)
    exact ⟨_, hjoin ▸ hfront⟩
  · have hjoin : join [dir, name] = clean (dir ++ "/" ++ name) := by simp [join, hdir, h.1]
    obtain ⟨front, hfront⟩ := elements_clean (kept_append hdir h)
    exact ⟨_, hjoin ▸ hfront⟩

theorem elements_join_names (dir : String) {sub name : String} (hsub : IsName sub) (h : IsName name) :
    ∃ front, (elements (join [dir, sub, name])).reverse = name.toList :: sub.toList :: front := by
  by_cases hdir : dir = ""
  · have hjoin : join [dir, sub, name] = clean (sub ++ "/" ++ name) := by simp [join, hdir, hsub.1, h.1]
    have hkept := kept_append hsub.1 h
    rw [kept_name hsub] at hkept
    obtain ⟨front, hfront⟩ := elements_clean hkept
    exact ⟨_, hjoin ▸ hfront⟩
  · have hjoin : join [dir, sub, name] = clean (dir ++ "/" ++ sub ++ "/" ++ name) := by
      simp [join, hdir, hsub.1, h.1]
    have hne : dir ++ "/" ++ sub ≠ "" := by
      intro hnil
      have hchars := congrArg String.toList hnil
      simp at hchars
    have hkept := kept_append hne h
    rw [kept_append hdir hsub] at hkept
    obtain ⟨front, hfront⟩ := elements_clean hkept
    exact ⟨_, hjoin ▸ hfront⟩

def base (path : String) : String := String.ofList ((elements path).reverse.headD [])

theorem base_join (dir : String) (h : IsName name) : base (join [dir, name]) = name := by
  obtain ⟨front, hfront⟩ := elements_join_name dir h
  rw [base, hfront, List.headD_cons, String.ofList_toList]

theorem name_of_join_eq {dir dir' name name' : String} (h : IsName name) (h' : IsName name')
    (heq : join [dir, name] = join [dir', name']) : name = name' := by
  rw [← base_join dir h, heq, base_join dir' h']

theorem names_of_join_eq {dir dir' sub sub' name name' : String} (hsub : IsName sub) (h : IsName name)
    (hsub' : IsName sub') (h' : IsName name')
    (heq : join [dir, sub, name] = join [dir', sub', name']) : sub = sub' ∧ name = name' := by
  obtain ⟨front, hfront⟩ := elements_join_names dir hsub h
  obtain ⟨front', hfront'⟩ := elements_join_names dir' hsub' h'
  rw [heq, hfront'] at hfront
  obtain ⟨hname, hrest⟩ := List.cons.inj hfront
  exact ⟨String.toList_inj.mp (List.cons.inj hrest).1.symm, String.toList_inj.mp hname.symm⟩

end Names

section Rooted

-- A rooted path is its elements, each behind a slash.
def stem (path : String) : String := String.ofList ((kept path).reverse.flatMap ('/' :: ·))

theorem slash_intercalate {parts : List (List Char)} (hne : parts ≠ []) :
    '/' :: ['/'].intercalate parts = parts.flatMap ('/' :: ·) := by
  induction parts with
  | nil => exact absurd rfl hne
  | cons part rest ih =>
    cases rest with
    | nil => simp [List.intercalate]
    | cons next rest =>
      rw [List.flatMap_cons, ← ih (List.cons_ne_nil next rest)]
      simp [List.intercalate]

variable {path : String}

theorem clean_rooted (hrooted : rooted path = true) :
    clean path = if kept path = [] then "/" else stem path := by
  rw [clean, hrooted]
  change String.ofList ('/' :: ['/'].intercalate (kept path).reverse) = _
  split
  · rename_i hempty
    rw [hempty]
    rfl
  · rename_i hne
    rw [stem, slash_intercalate (by simpa using hne)]

theorem stem_eq_empty (hempty : kept path = []) : stem path = "" := by
  rw [stem, hempty]
  rfl

theorem join_rooted {dir sub name : String} (hrooted : rooted dir = true) (hsub : IsName sub) (h : IsName name) :
    join [dir, sub, name] = stem dir ++ "/" ++ sub ++ "/" ++ name := by
  have hdir : dir ≠ "" := by
    rintro rfl
    cases hrooted
  have hjoin : join [dir, sub, name] = clean (dir ++ "/" ++ sub ++ "/" ++ name) := by
    simp [join, hdir, hsub.1, h.1]
  have hne : dir ++ "/" ++ sub ≠ "" := by
    intro hnil
    have hchars := congrArg String.toList hnil
    simp at hchars
  have hkept : kept (dir ++ "/" ++ sub ++ "/" ++ name) = name.toList :: sub.toList :: kept dir := by
    rw [kept_append hne h, kept_append hdir hsub]
  have hroot : rooted (dir ++ "/" ++ sub ++ "/" ++ name) = true := by
    rw [rooted_append _ _ hne, rooted_append _ _ hdir, hrooted]
  rw [hjoin, clean_rooted hroot, if_neg (by rw [hkept]; exact List.cons_ne_nil _ _), stem, hkept]
  apply String.toList_inj.mp
  simp [stem]

theorem kept_slash (h : path ≠ "") : kept (path ++ "/") = kept path := by
  have happend : path ++ "/" = path ++ "/" ++ "" := by simp
  rw [happend, kept, rooted_append path "" h, elements_append, List.foldl_append]
  rfl

theorem kept_slashes {chars : List Char} (hne : chars ≠ []) (n : Nat) :
    kept (String.ofList (chars ++ List.replicate n '/')) = kept (String.ofList chars) := by
  induction n with
  | zero => simp
  | succ n ih =>
    have hmore : String.ofList (chars ++ List.replicate (n + 1) '/') =
        String.ofList (chars ++ List.replicate n '/') ++ "/" := by
      apply String.toList_inj.mp
      simp [List.replicate_succ']
    have hother : String.ofList (chars ++ List.replicate n '/') ≠ "" := by
      intro hempty
      have hnil := congrArg String.toList hempty
      simp [hne] at hnil
    rw [hmore, kept_slash hother, ih]

theorem slashes_trimRight (path : String) :
    ∃ n, path = String.ofList ((trimRight path '/').toList ++ List.replicate n '/') := by
  have hslashes : ∀ c ∈ path.toList.reverse.takeWhile (· = '/'), c = '/' := by
    intro c hc
    simpa using List.all_eq_true.mp (List.all_takeWhile) c hc
  refine ⟨(path.toList.reverse.takeWhile (· = '/')).length, String.toList_inj.mp ?_⟩
  rw [String.toList_ofList, trimRight, String.toList_ofList]
  apply List.reverse_injective
  rw [List.reverse_append, List.reverse_reverse, List.reverse_replicate, ← List.eq_replicate_of_mem hslashes,
    List.takeWhile_append_dropWhile]

theorem kept_trimRight (hne : trimRight path '/' ≠ "") : kept (trimRight path '/') = kept path := by
  obtain ⟨n, hpath⟩ := slashes_trimRight path
  have hchars : (trimRight path '/').toList ≠ [] := fun hnil => hne (String.toList_inj.mp hnil)
  have hkept := kept_slashes hchars n
  rw [← hpath, String.ofList_toList] at hkept
  exact hkept.symm

theorem rooted_trimRight (hne : trimRight path '/' ≠ "") : rooted (trimRight path '/') = rooted path := by
  obtain ⟨n, hpath⟩ := slashes_trimRight path
  have hchars : (trimRight path '/').toList ≠ [] := fun hnil => hne (String.toList_inj.mp hnil)
  conv_rhs => rw [hpath]
  rw [rooted, rooted, String.toList_ofList, List.head?_append_of_ne_nil _ hchars]

theorem kept_of_trimRight (hempty : trimRight path '/' = "") : kept path = [] := by
  obtain ⟨n, hpath⟩ := slashes_trimRight path
  rw [hempty] at hpath
  cases n with
  | zero =>
    rw [hpath]
    rfl
  | succ n =>
    have hkept := @kept_slashes ['/'] (List.cons_ne_nil _ _) n
    rw [hpath]
    exact hkept

theorem prefix_slash_iff {dir stem name : List Char} (hname : '/' ∉ name) :
    dir ++ ['/'] <+: stem ++ '/' :: name ↔ stem = dir ∨ dir ++ ['/'] <+: stem := by
  constructor
  · intro hpre
    rcases List.prefix_or_prefix_of_prefix hpre (List.prefix_append stem _) with hunder | ⟨more, hmore⟩
    · exact .inr hunder
    · rw [← hmore, List.prefix_append_right_inj] at hpre
      cases more with
      | nil =>
        rw [List.append_nil] at hmore
        exact .inr (hmore ▸ List.prefix_refl _)
      | cons c rest =>
        obtain ⟨rfl, hrest⟩ := List.cons_prefix_cons.mp hpre
        rcases List.eq_nil_or_concat rest with rfl | ⟨front, last, rfl⟩
        · exact .inl (List.append_inj_left' hmore rfl)
        · rw [List.concat_eq_append, ← List.cons_append, ← List.append_assoc] at hmore
          obtain rfl : last = '/' := List.head_eq_of_cons_eq (List.append_inj' hmore rfl).2
          rw [List.concat_eq_append] at hrest
          exact absurd (hrest.subset (List.mem_append_right _ List.mem_cons_self)) hname
  · rintro (rfl | hunder)
    · rw [List.prefix_append_right_inj]
      exact List.cons_prefix_cons.mpr ⟨rfl, List.nil_prefix⟩
    · exact hunder.trans (List.prefix_append _ _)

theorem join_names {sub name : String} (hsub : IsName sub) (h : IsName name) :
    join ["", sub, name] = sub ++ "/" ++ name := by
  have hjoin : join ["", sub, name] = clean (sub ++ "/" ++ name) := by
    simp [join, hsub.1, h.1]
  rw [hjoin, clean, rooted_append _ _ hsub.1, rooted_name hsub, kept_append hsub.1 h, kept_name hsub]
  apply String.toList_inj.mp
  simp [render, List.intercalate]

end Rooted

end Caplv.Path
