import TokenAuthority.Files
import TokenAuthority.Proofs.Failure
import TokenAuthority.Proofs.Text.Separators

/-!
# Paths to the entries of a directory

A path that leads to a directory, joined with the name of a file, leads to what the directory holds under this
name.  A name that is none, because it is empty, holds a separator or stands for a place, may lead anywhere.

Walking on from where a walk has ended takes the directories above into account, which the walk itself does not
give.  So it is compared with a walk that keeps them, of which it is known that it can be cut anywhere.
-/

namespace TokenAuthority
namespace Files

/-- What a directory can hold something under. -/
structure IsFileName (name : String) : Prop where
  notEmpty : name ≠ ""
  notHere : name ≠ "."
  notAbove : name ≠ ".."
  noSeparator : '/' ∉ name.toList
  noEnd : Char.ofNat 0 ∉ name.toList

/-- Walks along names, and keeps the directories above the place that they lead to. -/
def arrive (node : Node) (above : List Node) : List String → Except Failure (Node × List Node)
  | [] => .ok (node, above)
  | name :: names =>
    match node with
    | .file _ => .error .unreadable
    | .directory entries =>
      if name = "" ∨ name = "." then arrive (.directory entries) above names
      else if name = ".." then
        match above with
        | [] => arrive (.directory entries) [] names
        | parent :: above => arrive parent above names
      else
        match Node.child? (.directory entries) name with
        | none => .error .notFound
        | some child => arrive child (.directory entries :: above) names

theorem walk_eq_map_arrive (node : Node) (above : List Node) (names : List String) :
    walk node above names = (arrive node above names).map Prod.fst := by
  fun_induction arrive node above names <;> simp_all [walk, Except.map]

theorem arrive_append (node : Node) (above : List Node) (names more : List String) :
    arrive node above (names ++ more) =
      (arrive node above names).bind fun (node, above) => arrive node above more := by
  fun_induction arrive node above names <;> simp_all [arrive, Except.bind]

section

variable {node : Node} {above : List Node} {names : List String} {entries : List (String × Node)}

/-- One step further, the walk is at what the directory holds under the name. -/
theorem walk_append_singleton {name : String} (isName : IsFileName name)
    (leads : walk node above names = .ok (.directory entries)) :
    walk node above (names ++ [name]) =
      match Node.child? (.directory entries) name with
      | none => .error .notFound
      | some child => .ok child := by
  rw [walk_eq_map_arrive] at leads ⊢
  rcases exists_ok_of_map leads with ⟨⟨_, around⟩, arrived, rfl⟩
  rw [arrive_append, arrived]
  simp only [Except.bind, arrive, isName.notEmpty, isName.notHere, isName.notAbove, or_self, if_false]
  cases Node.child? (.directory entries) name <;> rfl

/-- An empty name at the end of a walk that leads to a directory has no effect. -/
theorem walk_of_append_empty (leads : walk node above (names ++ [""]) = .ok (.directory entries)) :
    walk node above names = .ok (.directory entries) := by
  rw [walk_eq_map_arrive] at leads ⊢
  rw [arrive_append] at leads
  rcases exists_ok_of_map leads with ⟨⟨_, around⟩, arrived, rfl⟩
  cases before : arrive node above names with
  | error failure =>
      rw [before] at arrived
      cases arrived
  | ok place =>
      rcases place with ⟨content | others, around⟩
      · rw [before] at arrived
        cases arrived
      · rw [before] at arrived
        cases arrived
        rfl

end

/-! ## Joined paths -/

/-- The names along which a path is walked. -/
def Tree.namesAlong (tree : Tree) (path : String) : List String :=
  if isAbsolute path then Text.splitAll '/' path else tree.workingDirectory ++ Text.splitAll '/' path

/-- A path without zero characters is walked along its names, unless it is empty. -/
theorem Tree.find_eq_walk (tree : Tree) {path : String} (notEmpty : path ≠ "")
    (noEnd : Char.ofNat 0 ∉ path.toList) : tree.find path = walk tree.root [] (tree.namesAlong path) := by
  have visible : path.isEmpty = false := by simpa using notEmpty
  have noZero : path.toList.contains (Char.ofNat 0) = false := by simpa using noEnd
  simp only [find, visible, noZero, Bool.false_eq_true, if_false, namesAlong]

theorem Tree.ne_empty_of_find {tree : Tree} {path : String} {node : Node} (leads : tree.find path = .ok node) :
    path ≠ "" ∧ Char.ofNat 0 ∉ path.toList := by
  rw [find] at leads
  split at leads
  · cases leads
  next visible =>
    split at leads
    · cases leads
    next noZero => exact ⟨by simpa using visible, by simpa using noZero⟩

theorem isAbsolute_eq_false {name : String} (noSeparator : '/' ∉ name.toList) : isAbsolute name = false := by
  rw [isAbsolute, decide_eq_false_iff_not]
  exact fun first => noSeparator (List.mem_of_head? first)

/-- The path of an entry is the path of its directory, a separator and a name; the path of the directory may end
in the separator itself. -/
theorem exists_toList_join {directory name : String} (notEmpty : directory ≠ "")
    (noSeparator : '/' ∉ name.toList) :
    ∃ before : List Char, (join directory name).toList = before ++ '/' :: name.toList ∧
      (directory.toList = before ∨ directory.toList = before ++ ['/']) := by
  have visible : directory.isEmpty = false := by simpa using notEmpty
  simp only [join, isAbsolute_eq_false noSeparator, visible, Bool.false_or, Bool.false_eq_true, if_false,
    decide_eq_true_eq]
  split
  next last =>
    rcases List.getLast?_eq_some_iff.mp last with ⟨before, ends⟩
    refine ⟨before, ?_, Or.inr ends⟩
    rw [String.toList_append, ends, List.append_assoc, List.singleton_append]
  · refine ⟨directory.toList, ?_, Or.inl rfl⟩
    rw [String.toList_append, String.toList_append, List.append_assoc]
    rfl

/-- A path joined with a name is walked along the names of the path, and then along this one. -/
theorem Tree.exists_namesAlong_join (tree : Tree) {directory name : String} (notEmpty : directory ≠ "")
    (noSeparator : '/' ∉ name.toList) :
    ∃ names, tree.namesAlong (join directory name) = names ++ [name] ∧
      (tree.namesAlong directory = names ∨ tree.namesAlong directory = names ++ [""]) := by
  rcases exists_toList_join notEmpty noSeparator with ⟨before, joined, ends⟩
  have absolute : isAbsolute (join directory name) = isAbsolute directory := by
    have notNil : directory.toList ≠ [] := by simpa using notEmpty
    rw [isAbsolute, isAbsolute, joined]
    congr 1
    rcases ends with ends | ends
    · rw [List.head?_append_of_ne_nil _ (ends ▸ notNil), ends]
    · rw [ends]
      cases before <;> rfl
  have parts : Text.splitAll '/' (join directory name) =
      (Text.splitAllChars '/' before).map String.ofList ++ [name] := by
    rw [Text.splitAll, joined, Text.splitAllChars_append_cons, Text.splitAllChars_of_not_mem noSeparator,
      List.map_append, List.map_singleton, String.ofList_toList]
  have ofDirectory : Text.splitAll '/' directory = (Text.splitAllChars '/' before).map String.ofList ∨
      Text.splitAll '/' directory = (Text.splitAllChars '/' before).map String.ofList ++ [""] := by
    rw [Text.splitAll]
    rcases ends with ends | ends
    · exact Or.inl (by rw [ends])
    · refine Or.inr ?_
      rw [ends, Text.splitAllChars_append_cons, List.map_append]
      rfl
  rw [namesAlong, namesAlong, absolute, parts]
  split
  · exact ⟨_, rfl, ofDirectory⟩
  · refine ⟨_, (List.append_assoc ..).symm, ofDirectory.imp (congrArg _) fun same => ?_⟩
    rw [same, List.append_assoc]

/-- Joined with a name, the path of a directory leads to what the directory holds under this name. -/
theorem Tree.find_join {tree : Tree} {directory name : String} {entries : List (String × Node)}
    (leads : tree.find directory = .ok (.directory entries)) (isName : IsFileName name) :
    tree.find (join directory name) =
      match Node.child? (.directory entries) name with
      | none => .error .notFound
      | some child => .ok child := by
  rcases ne_empty_of_find leads with ⟨notEmpty, noEnd⟩
  rcases exists_toList_join notEmpty isName.noSeparator with ⟨before, joined, ends⟩
  rcases tree.exists_namesAlong_join notEmpty isName.noSeparator with ⟨names, along, ofDirectory⟩
  have joinedNotEmpty : join directory name ≠ "" := by
    intro empty
    rw [empty] at joined
    cases before <;> cases joined
  have joinedNoEnd : Char.ofNat 0 ∉ (join directory name).toList := by
    have notBefore : Char.ofNat 0 ∉ before := by
      rcases ends with ends | ends <;> simp_all
    have notSeparator : Char.ofNat 0 ≠ '/' := by decide
    rw [joined]
    simp [notBefore, notSeparator, isName.noEnd]
  rw [tree.find_eq_walk notEmpty noEnd] at leads
  have arrives : walk tree.root [] names = .ok (.directory entries) := by
    rcases ofDirectory with same | same
    · rwa [same] at leads
    · rw [same] at leads
      exact walk_of_append_empty leads
  rw [tree.find_eq_walk joinedNotEmpty joinedNoEnd, along, walk_append_singleton isName arrives]

end Files
end TokenAuthority
