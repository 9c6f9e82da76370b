/-
  What a path with one more name leads to. `resolveFrom_append` takes a path apart: its first
  parts lead somewhere and use up links, and the other parts go on from there with the links
  that are left. `arrive_join` is the case of a walk, which puts one name behind the path of a
  directory. How many links a path may go through decides whether it leads anywhere, but not
  where to (`resolveFrom_moreLinks`); `Leads` is the relation without that number.
-/
import SourceTidy.FileSystem.Resolve

namespace SourceTidy

namespace Path

/-! ## Parts -/

theorem split_append_slash (s t : List Char) : split (s ++ '/' :: t) = split s ++ split t := by
  induction s with
  | nil => simp [split]
  | cons c s ih =>
    by_cases hc : c = '/'
    · simp [split, hc, ih]
    · simp only [List.cons_append, split, if_neg hc, ih]
      cases hs : split s with
      | nil => exact absurd hs (split_ne_nil s)
      | cons part parts => rfl

theorem split_of_not_mem {s : List Char} (h : '/' ∉ s) : split s = [s] := by
  induction s with
  | nil => rfl
  | cons c s ih =>
    rw [List.mem_cons, not_or] at h
    rw [split, if_neg (Ne.symm h.1), ih h.2]

theorem isName_iff {n : String} : isName n = true ↔
    n ≠ "" ∧ n ≠ "." ∧ n ≠ ".." ∧ '/' ∉ n.toList ∧ '\x00' ∉ n.toList := by
  simp [isName, and_assoc]

theorem join_of_slash {dir : String} (name : String) (h : dir.toList.getLast? = some '/') :
    join dir name = dir ++ name := by
  have hne : dir.isEmpty = false := by
    cases hd : dir.isEmpty with
    | false => rfl
    | true =>
      rw [String.isEmpty_iff.1 hd] at h
      simp at h
  simp [join, hne, h]

theorem join_of_not_slash {dir : String} (name : String) (hne : dir ≠ "")
    (h : dir.toList.getLast? ≠ some '/') : join dir name = dir ++ "/" ++ name := by
  have he : dir.isEmpty = false := by simpa using hne
  simp [join, he, h]

theorem isAbsolute_append {dir : String} (s : String) (hne : dir ≠ "") :
    isAbsolute (dir ++ s) = isAbsolute dir := by
  cases hd : dir.toList with
  | nil => exact absurd (by simpa using hd) hne
  | cons c l => simp [isAbsolute, hd]

theorem isAbsolute_join {dir : String} (name : String) (hne : dir ≠ "") :
    isAbsolute (join dir name) = isAbsolute dir := by
  by_cases h : dir.toList.getLast? = some '/'
  · rw [join_of_slash name h, isAbsolute_append name hne]
  · rw [join_of_not_slash name hne h, String.append_assoc, isAbsolute_append _ hne]

theorem parts_append_slash (dir s : String) : parts (dir ++ "/" ++ s) = parts dir ++ parts s := by
  simp [parts, split_append_slash]

theorem parts_of_isName {n : String} (h : isName n = true) : parts n = [n] := by
  rw [isName_iff] at h
  simp [parts, split_of_not_mem h.2.2.2.1]

/-- The name comes last, behind the parts of the directory; an empty part at the end of those
    is lost. -/
theorem parts_join {dir : String} (hne : dir ≠ "") :
    ∃ ps, (parts dir = ps ∨ parts dir = ps ++ [""]) ∧
      ∀ name, isName name = true → parts (join dir name) = ps ++ [name] := by
  by_cases h : dir.toList.getLast? = some '/'
  · obtain ⟨s, hs⟩ := List.getLast?_eq_some_iff.1 h
    have hd : dir = String.ofList s ++ "/" ++ "" := by
      rw [← String.toList_inj]
      simp [hs]
    refine ⟨parts (String.ofList s), Or.inr ?_, ?_⟩
    · rw [hd, parts_append_slash]
      rfl
    · intro name hn
      have hj : join dir name = String.ofList s ++ "/" ++ name := by
        rw [join_of_slash name h, hd]
        simp
      rw [hj, parts_append_slash, parts_of_isName hn]
  · refine ⟨parts dir, Or.inl rfl, ?_⟩
    intro name hn
    rw [join_of_not_slash name hne h, parts_append_slash, parts_of_isName hn]

theorem join_ne_empty {dir : String} (name : String) (hne : dir ≠ "") : join dir name ≠ "" := by
  by_cases h : dir.toList.getLast? = some '/'
  · simp [join_of_slash name h, hne]
  · simp [join_of_not_slash name hne h, hne]

theorem utf8ByteSize_lt_join {dir name : String} (hne : dir ≠ "") (hn : isName name = true) :
    dir.utf8ByteSize < (join dir name).utf8ByteSize := by
  have hpos : 0 < name.utf8ByteSize := by
    rw [isName_iff] at hn
    rw [Nat.pos_iff_ne_zero, Ne, String.utf8ByteSize_eq_zero_iff]
    exact hn.1
  by_cases h : dir.toList.getLast? = some '/'
  · rw [join_of_slash name h, String.utf8ByteSize_append]
    omega
  · rw [join_of_not_slash name hne h, String.utf8ByteSize_append, String.utf8ByteSize_append]
    omega

theorem not_mem_join {dir name : String} (hne : dir ≠ "") (hd : '\x00' ∉ dir.toList)
    (hn : isName name = true) : '\x00' ∉ (join dir name).toList := by
  rw [isName_iff] at hn
  by_cases h : dir.toList.getLast? = some '/'
  · simp [join_of_slash name h, hd, hn]
  · simp [join_of_not_slash name hne h, hd, hn]

end Path

namespace FileSystem

variable {fs : FileSystem}

/-! ## Parts taken one after the other -/

/-- What happens at a link while at most `n` links are left. -/
def beyond (fs : FileSystem) : Nat → Location → List String → Except FileError Arrival
  | 0 => fun _ _ => .error .tooManyLinks
  | n + 1 => fs.resolveFrom n

theorem resolveFrom_eq_follow (n : Nat) : fs.resolveFrom n = fs.follow n (fs.beyond n) := by
  cases n <;> rfl

/-- If what happens at links can be taken apart, then so can all of a path. -/
theorem follow_append {n : Nat} {enter : Location → List String → Except FileError Arrival}
    {next : Arrival → Except FileError Arrival} {qs : List String}
    (hend : ∀ here, next ⟨here, n⟩ = fs.follow n enter here qs)
    (henter : ∀ start rs, enter start (rs ++ qs) = (enter start rs).bind next)
    (here : Location) (ps : List String) :
    fs.follow n enter here (ps ++ qs) = (fs.follow n enter here ps).bind next := by
  induction ps generalizing here with
  | nil => exact (hend here).symm
  | cons p ps ih =>
    simp only [List.cons_append, follow]
    split
    · split
      · exact ih here
      · split
        · exact ih here.dropLast
        · split
          · rfl
          · rw [← List.append_assoc]
            exact henter _ _
          · exact ih _
    · rfl
    · rfl

theorem beyond_append (n : Nat) (here : Location) (ps qs : List String) :
    fs.beyond n here (ps ++ qs) =
      (fs.beyond n here ps).bind fun a => fs.resolveFrom a.links a.place qs := by
  induction n generalizing here ps with
  | zero => rfl
  | succ n ih =>
    show fs.resolveFrom n here (ps ++ qs) = (fs.resolveFrom n here ps).bind _
    rw [resolveFrom_eq_follow]
    apply follow_append
    · intro here
      rw [← resolveFrom_eq_follow]
    · exact ih

/-- The parts of a path can be cut anywhere: what comes behind goes on from where the front has
    led, with the links that are left. -/
theorem resolveFrom_append (n : Nat) (here : Location) (ps qs : List String) :
    fs.resolveFrom n here (ps ++ qs) =
      (fs.resolveFrom n here ps).bind fun a => fs.resolveFrom a.links a.place qs :=
  beyond_append (n + 1) here ps qs

/-! ## The number of links -/

/-- The second result is the first one with `k` more links to go; where the links of the first
    one ran out, the second one may be anything. -/
def MoreLinks (k : Nat) : Except FileError Arrival → Except FileError Arrival → Prop
  | .ok a, r => r = .ok ⟨a.place, a.links + k⟩
  | .error e, r => e = .tooManyLinks ∨ r = .error e

theorem follow_moreLinks {n k : Nat}
    {enter enter' : Location → List String → Except FileError Arrival}
    (henter : ∀ start rs, MoreLinks k (enter start rs) (enter' start rs))
    (here : Location) (ps : List String) :
    MoreLinks k (fs.follow n enter here ps) (fs.follow (n + k) enter' here ps) := by
  induction ps generalizing here with
  | nil => rfl
  | cons p ps ih =>
    simp only [follow]
    split
    · split
      · exact ih here
      · split
        · exact ih here.dropLast
        · split
          · exact Or.inr rfl
          · exact henter _ _
          · exact ih _
    · exact Or.inr rfl
    · exact Or.inr rfl

theorem beyond_moreLinks (fs : FileSystem) (n k : Nat) (here : Location) (ps : List String) :
    MoreLinks k (fs.beyond n here ps) (fs.beyond (n + k) here ps) := by
  induction n generalizing here ps with
  | zero => exact Or.inl rfl
  | succ n ih =>
    rw [Nat.add_right_comm]
    show MoreLinks k (fs.resolveFrom n here ps) (fs.resolveFrom (n + k) here ps)
    rw [resolveFrom_eq_follow, resolveFrom_eq_follow]
    exact follow_moreLinks ih here ps

/-- With more links to go through, a path leads to the same place, and fails in the same way
    unless it was for want of links. -/
theorem resolveFrom_moreLinks (n k : Nat) (here : Location) (ps : List String) :
    MoreLinks k (fs.resolveFrom n here ps) (fs.resolveFrom (n + k) here ps) := by
  have h := beyond_moreLinks fs (n + 1) k here ps
  rwa [Nat.add_right_comm] at h

theorem moreLinks_of_le (fs : FileSystem) {n m : Nat} (h : n ≤ m) (here : Location)
    (ps : List String) :
    ∃ k, MoreLinks k (fs.resolveFrom n here ps) (fs.resolveFrom m here ps) := by
  obtain ⟨k, rfl⟩ := Nat.exists_eq_add_of_le h
  exact ⟨k, resolveFrom_moreLinks n k here ps⟩

theorem resolveFrom_unique {n m : Nat} {here : Location} {ps : List String} {a b : Arrival}
    (ha : fs.resolveFrom n here ps = .ok a) (hb : fs.resolveFrom m here ps = .ok b) :
    a.place = b.place := by
  rcases Nat.le_total n m with h | h
  · obtain ⟨k, hk⟩ := moreLinks_of_le fs h here ps
    rw [ha, hb] at hk
    rw [Except.ok.inj hk]
  · obtain ⟨k, hk⟩ := moreLinks_of_le fs h here ps
    rw [ha, hb] at hk
    rw [Except.ok.inj hk]

/-- If a path leads somewhere at all, then with any number of links it leads there, or there
    are too few of them. -/
theorem resolveFrom_of_ok {n : Nat} {here : Location} {ps : List String} {a : Arrival}
    (ha : fs.resolveFrom n here ps = .ok a) (m : Nat) :
    (∃ k, fs.resolveFrom m here ps = .ok ⟨a.place, k⟩) ∨
      fs.resolveFrom m here ps = .error .tooManyLinks := by
  cases hm : fs.resolveFrom m here ps with
  | ok b =>
    left
    exact ⟨b.links, by rw [resolveFrom_unique ha hm]⟩
  | error e =>
    right
    rcases Nat.le_total n m with h | h
    · obtain ⟨k, hk⟩ := moreLinks_of_le fs h here ps
      rw [ha, hm] at hk
      cases hk
    · obtain ⟨k, hk⟩ := moreLinks_of_le fs h here ps
      rw [ha, hm] at hk
      rcases hk with hk | hk
      · rw [hk]
      · cases hk

/-! ## Entries of a directory -/

theorem mem_of_node? {l : Location} {n : Node} (hl : l ≠ []) (h : fs.node? l = some n) :
    (l, n) ∈ fs.entries := by
  cases l with
  | nil => exact absurd rfl hl
  | cons a l =>
    have hlookup : fs.entries.lookup (a :: l) = some n := h
    obtain ⟨l₁, l₂, hes, -⟩ := List.lookup_eq_some_iff.1 hlookup
    rw [hes]
    simp

theorem isName_of_node? {dir : Location} {name : String} {n : Node}
    (h : fs.node? (dir ++ [name]) = some n) : isName name = true := by
  have hm := (fs.named _ (mem_of_node? (by simp) h)).2
  simp only [List.all_append, List.all_cons, List.all_nil, Bool.and_true, Bool.and_eq_true] at hm
  exact hm.2

/-- The entry `name` of the directory at `dir` is a link. -/
def IsLink (fs : FileSystem) (dir : Location) (name : String) : Prop :=
  ∃ target, fs.node? (dir ++ [name]) = some (.link target)

/-- The directory at `dir` has an entry `name`, and it leads to `l`: right there, or through
    links, however many. -/
def Leads (fs : FileSystem) (dir : Location) (name : String) (l : Location) : Prop :=
  (fs.node? (dir ++ [name])).isSome ∧ ∃ n k, fs.resolveFrom n dir [name] = .ok ⟨l, k⟩

theorem resolveFrom_entry {dir : Location} {name : String} {n : Node} (links : Nat)
    (hdir : fs.node? dir = some .directory) (hn : fs.node? (dir ++ [name]) = some n)
    (hlink : ∀ target, n ≠ .link target) :
    fs.resolveFrom links dir [name] = .ok ⟨dir ++ [name], links⟩ := by
  have hname := Path.isName_iff.1 (isName_of_node? hn)
  rw [resolveFrom_eq_follow]
  simp only [follow, hdir, hname.1, hname.2.1, hname.2.2.1, or_self, if_false, hn]

theorem leads_entry {dir : Location} {name : String} {n : Node}
    (hdir : fs.node? dir = some .directory) (hn : fs.node? (dir ++ [name]) = some n)
    (hlink : ∀ target, n ≠ .link target) : fs.Leads dir name (dir ++ [name]) :=
  ⟨by simp [hn], 0, 0, resolveFrom_entry 0 hdir hn hlink⟩

theorem leads_unique {dir l m : Location} {name : String} (hl : fs.Leads dir name l)
    (hm : fs.Leads dir name m) : l = m := by
  obtain ⟨-, n, k, hl⟩ := hl
  obtain ⟨-, n', k', hm⟩ := hm
  exact resolveFrom_unique hl hm

/-- An entry that is no link leads to what stands there. -/
theorem node?_of_leads {dir l : Location} {name : String} {n : Node}
    (hdir : fs.node? dir = some .directory) (hn : fs.node? (dir ++ [name]) = some n)
    (hl : fs.Leads dir name l) (hlink : ∀ target, n ≠ .link target) : fs.node? l = some n := by
  rw [leads_unique hl (leads_entry hdir hn hlink)]
  exact hn

/-! ## Paths -/

theorem resolve_eq_ok {home l : Location} {path : String} :
    fs.resolve home path = .ok l ↔ ∃ k, fs.arrive home path = .ok ⟨l, k⟩ := by
  unfold resolve
  cases fs.arrive home path with
  | error e => simp [Except.map]
  | ok a =>
    obtain ⟨place, k⟩ := a
    simp [Except.map]

theorem resolve_of_arrive_error {home : Location} {path : String} {e : FileError}
    (h : fs.arrive home path = .error e) : fs.resolve home path = .error e := by
  unfold resolve
  rw [h]
  rfl

/-- A path that leads somewhere has a text that a path may have. -/
theorem pathFault?_of_arrive {home : Location} {path : String} {a : Arrival}
    (h : fs.arrive home path = .ok a) : pathFault? path = none := by
  unfold arrive at h
  split at h
  · cases h
  · next hf => exact hf

theorem pathFault?_eq_none {path : String} : pathFault? path = none ↔
    path ≠ "" ∧ '\x00' ∉ path.toList ∧ path.utf8ByteSize ≤ pathLimit := by
  unfold pathFault?
  split
  · next h => simp at h; simp [h]
  · next h =>
    simp at h
    split
    · next hc => simp at hc; simp [hc]
    · next hc => simp at hc; simp [h, hc]

theorem ne_empty_of_resolve {home l : Location} {path : String}
    (h : fs.resolve home path = .ok l) : path ≠ "" := by
  obtain ⟨k, harr⟩ := resolve_eq_ok.1 h
  exact (pathFault?_eq_none.1 (pathFault?_of_arrive harr)).1

/-- A path that is fit but for its length cannot be followed if it is too long. -/
theorem arrive_of_long {home : Location} {path : String} (hne : path ≠ "")
    (hnul : '\x00' ∉ path.toList) (hlong : pathLimit < path.utf8ByteSize) :
    fs.arrive home path = .error .nameTooLong := by
  have hf : pathFault? path = some .nameTooLong := by
    simp [pathFault?, hne, hnul, hlong]
  unfold arrive
  rw [hf]

/-- Where a path leads that puts the name of an entry behind the path of a directory. -/
theorem arrive_join {home : Location} {dir name : String} {a : Arrival}
    (hd : fs.arrive home dir = .ok a) (hn : isName name = true) :
    fs.arrive home (Path.join dir name) =
      if pathLimit < (Path.join dir name).utf8ByteSize then .error .nameTooLong
      else fs.resolveFrom a.links a.place [name] := by
  have hf := pathFault?_of_arrive hd
  obtain ⟨hne, hnul, -⟩ := pathFault?_eq_none.1 hf
  split
  · next h => exact arrive_of_long (Path.join_ne_empty name hne) (Path.not_mem_join hne hnul hn) h
  · next h =>
    have hj : pathFault? (Path.join dir name) = none := pathFault?_eq_none.2
      ⟨Path.join_ne_empty name hne, Path.not_mem_join hne hnul hn, Nat.le_of_not_lt h⟩
    unfold arrive at hd ⊢
    rw [hf] at hd
    rw [hj]
    simp only at hd ⊢
    rw [Path.isAbsolute_join name hne]
    obtain ⟨ps, hps, hjoin⟩ := Path.parts_join hne
    rw [hjoin name hn, resolveFrom_append]
    rcases hps with hps | hps
    · rw [hps] at hd
      rw [hd]
      rfl
    · -- The empty part at the end stays where the parts before it have led.
      rw [hps, resolveFrom_append] at hd
      cases hb : fs.resolveFrom linkLimit (if Path.isAbsolute dir then [] else home) ps with
      | error e =>
        rw [hb] at hd
        cases hd
      | ok b =>
        rw [hb] at hd
        have hba : b = a := by
          simp only [Except.bind] at hd
          rw [resolveFrom_eq_follow] at hd
          simp only [follow, true_or, if_true] at hd
          split at hd
          · exact Except.ok.inj hd
          · cases hd
          · cases hd
        rw [hba]
        rfl

/-- A path to an entry leads where the entry leads, unless the path has grown too long or has
    used up its links. -/
theorem resolve_join_of_leads {home l : Location} {dir name : String} {a : Arrival}
    (hd : fs.arrive home dir = .ok a) (hl : fs.Leads a.place name l) :
    fs.resolve home (Path.join dir name) = .ok l ∨
      fs.resolve home (Path.join dir name) = .error .nameTooLong ∨
      fs.resolve home (Path.join dir name) = .error .tooManyLinks := by
  obtain ⟨hsome, n, k, hres⟩ := hl
  obtain ⟨node, hnode⟩ := Option.isSome_iff_exists.1 hsome
  have hj := arrive_join hd (isName_of_node? hnode)
  split at hj
  · exact Or.inr (Or.inl (resolve_of_arrive_error hj))
  · rcases resolveFrom_of_ok hres a.links with ⟨k', hk⟩ | hk
    · left
      rw [hk] at hj
      exact resolve_eq_ok.2 ⟨k', hj⟩
    · rw [hk] at hj
      exact Or.inr (Or.inr (resolve_of_arrive_error hj))

theorem leads_of_resolve_join {home l : Location} {dir name : String} {a : Arrival} {n : Node}
    (hd : fs.arrive home dir = .ok a) (hn : fs.node? (a.place ++ [name]) = some n)
    (hl : fs.resolve home (Path.join dir name) = .ok l) : fs.Leads a.place name l := by
  obtain ⟨k, hk⟩ := resolve_eq_ok.1 hl
  rw [arrive_join hd (isName_of_node? hn)] at hk
  split at hk
  · cases hk
  · exact ⟨by simp [hn], a.links, k, hk⟩

end FileSystem

end SourceTidy
