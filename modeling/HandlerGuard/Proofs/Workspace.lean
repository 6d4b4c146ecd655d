import HandlerGuard.Workspace

namespace HandlerGuard

/-- The location of a file that is there or can be made. -/
def Place.file? : Place → Option Location
  | .file location _ => some location
  | .vacant location => some location
  | .directory _ => none

namespace Workspace

/-- The location of the file that a path names, whether or not it is there. -/
def fileAt? (w : Workspace) (path : Text) : Option Location :=
  (w.locate path).toOption.bind Place.file?

def set (w : Workspace) (location : Location) (content : List UInt8) : Workspace :=
  { w with files := put location content w.files }

variable {w w' : Workspace} {location other : Location} {content : List UInt8} {path : Text}

theorem lookup_put (location other : Location) (content : List UInt8)
    (files : List (Location × List UInt8)) :
    (put location content files).lookup other =
      if other = location then some content else files.lookup other := by
  induction files with
  | nil =>
      by_cases h : other = location
      · simp [put, h]
      · simp [put, List.lookup_cons, h, beq_false_of_ne h]
  | cons entry files ih =>
      obtain ⟨key, old⟩ := entry
      by_cases hkey : key = location
      · subst hkey
        by_cases h : other = key
        · simp [put, h]
        · simp [put, h, List.lookup_cons, beq_false_of_ne h]
      · rw [put, if_neg hkey]
        by_cases h : other = key
        · subst h
          simp [hkey]
        · rw [List.lookup_cons, beq_false_of_ne h, ih, List.lookup_cons, beq_false_of_ne h]

theorem content?_set (w : Workspace) (location other : Location) (content : List UInt8) :
    (w.set location content).content? other =
      if other = location then some content else w.content? other :=
  lookup_put location other content w.files

theorem any_put (p : Location → Bool) (location : Location) (content : List UInt8)
    (files : List (Location × List UInt8)) :
    ((put location content files).any fun entry => p entry.1) =
      ((files.any fun entry => p entry.1) || p location) := by
  induction files with
  | nil => simp [put]
  | cons entry files ih =>
      obtain ⟨key, old⟩ := entry
      by_cases hkey : key = location
      · subst hkey
        cases hp : p key <;> simp [put, hp]
      · simp [put, hkey, ih, Bool.or_assoc]

theorem isDirectory_iff : w.isDirectory location = true ↔
    (∀ component ∈ location, component = above) ∨ location = [root] ∨
      (∃ directory ∈ w.directories, location <+: directory) ∨
      ∃ entry ∈ w.files, location <+: entry.1.dropLast := by
  simp [isDirectory, or_assoc]

theorem isDirectory_of_front (h : w.isDirectory location = true) (hfront : other <+: location) :
    w.isDirectory other = true := by
  rw [isDirectory_iff] at h ⊢
  rcases h with habove | rfl | ⟨directory, hmem, hdirectory⟩ | ⟨entry, hmem, hentry⟩
  · exact Or.inl fun component hcomponent => habove component (hfront.subset hcomponent)
  · cases other with
    | nil => exact Or.inl (by simp)
    | cons component rest =>
        obtain ⟨rfl, hrest⟩ := List.cons_prefix_cons.mp hfront
        rw [List.prefix_nil.mp hrest]
        exact Or.inr (Or.inl rfl)
  · exact Or.inr (Or.inr (Or.inl ⟨directory, hmem, hfront.trans hdirectory⟩))
  · exact Or.inr (Or.inr (Or.inr ⟨entry, hmem, hfront.trans hentry⟩))

theorem isDirectory_locationAbove (h : w.isDirectory location = true) :
    w.isDirectory (locationAbove location) = true := by
  unfold locationAbove
  split
  · rename_i habove
    rw [isDirectory_iff]
    left
    intro component hcomponent
    rcases List.mem_append.mp hcomponent with hmem | hmem
    · simpa using List.all_eq_true.mp habove component hmem
    · exact List.mem_singleton.mp hmem
  · split
    · exact h
    · have hfront := List.dropLast_prefix location
      exact isDirectory_of_front h hfront

theorem isDirectory_set (h : w.isDirectory location.dropLast = true) (content : List UInt8)
    (other : Location) : (w.set location content).isDirectory other = w.isDirectory other := by
  have hany : (w.set location content).isDirectory other =
      (w.isDirectory other || other.isPrefixOf location.dropLast) := by
    simp only [isDirectory, set, Bool.or_assoc,
      any_put fun key => List.isPrefixOf other (List.dropLast key)]
  rw [hany]
  cases hfront : other.isPrefixOf location.dropLast with
  | false => rw [Bool.or_false]
  | true =>
      have hfront := List.isPrefixOf_iff_prefix.mp hfront
      rw [isDirectory_of_front h hfront, Bool.or_true]

/-- The file that a walk from a directory leads to stands in a directory, and its content is that of its
location. -/
theorem walk_eq_ok {slash : Bool} {start : Location} {components : List Text} {place : Place}
    (hstart : w.isDirectory start = true) (h : w.walk slash start components = .ok place) :
    (∃ location, place = .directory location) ∨
      (∃ location content, place = .file location content ∧ w.isDirectory location.dropLast = true ∧
        w.content? location = some content) ∨
      ∃ location, place = .vacant location ∧ w.isDirectory location.dropLast = true ∧
        w.content? location = none := by
  induction components generalizing start with
  | nil => exact Or.inl ⟨start, (Except.ok.inj h).symm⟩
  | cons component rest ih =>
      rw [walk] at h
      split at h
      · exact ih hstart h
      split at h
      · exact ih (isDirectory_locationAbove hstart) h
      split at h
      · exact absurd h (by simp)
      have hparent : w.isDirectory (start ++ [component]).dropLast = true := by
        rwa [List.dropLast_concat]
      simp only at h
      split at h
      · rename_i hnext
        exact ih hnext h
      · cases hcontent : w.content? (start ++ [component]) with
        | some content =>
            rw [hcontent] at h
            simp only at h
            split at h
            · exact Or.inr (Or.inl ⟨_, content, (Except.ok.inj h).symm, hparent, hcontent⟩)
            · exact absurd h (by simp)
        | none =>
            rw [hcontent] at h
            simp only at h
            split at h
            · split at h
              · exact absurd h (by simp)
              · exact Or.inr (Or.inr ⟨_, (Except.ok.inj h).symm, hparent, hcontent⟩)
            · exact absurd h (by simp)

theorem isDirectory_startOf (w : Workspace) (path : Text) :
    w.isDirectory (startOf path).1 = true := by
  rw [isDirectory_iff]
  unfold startOf
  split
  · exact Or.inr (Or.inl rfl)
  · exact Or.inl (by simp)

theorem locate_eq_ok {place : Place} (h : w.locate path = .ok place) :
    (∃ location, place = .directory location) ∨
      (∃ location content, place = .file location content ∧ w.isDirectory location.dropLast = true ∧
        w.content? location = some content) ∨
      ∃ location, place = .vacant location ∧ w.isDirectory location.dropLast = true ∧
        w.content? location = none := by
  unfold locate at h
  split at h
  · exact absurd h (by simp)
  split at h
  · exact absurd h (by simp)
  exact walk_eq_ok (isDirectory_startOf w path) h

theorem fileAt?_eq_some_iff : w.fileAt? path = some location ↔
    (∃ content, w.locate path = .ok (.file location content)) ∨
      w.locate path = .ok (.vacant location) := by
  unfold fileAt?
  cases h : w.locate path with
  | error e => simp [Except.toOption]
  | ok place => cases place <;> simp [Except.toOption, Place.file?]

theorem isDirectory_of_fileAt? (h : w.fileAt? path = some location) :
    w.isDirectory location.dropLast = true := by
  rcases fileAt?_eq_some_iff.mp h with ⟨content, hplace⟩ | hplace <;>
    rcases locate_eq_ok hplace with ⟨_, ⟨⟩⟩ | ⟨_, _, ⟨⟩, hparent, -⟩ | ⟨_, ⟨⟩, hparent, -⟩ <;>
    exact hparent

theorem read_eq_ok_iff : w.read path = .ok content ↔
    ∃ location, w.fileAt? path = some location ∧ w.content? location = some content := by
  unfold read
  cases h : w.locate path with
  | error e => cases e <;> simp [fileAt?, h, Except.toOption]
  | ok place =>
      rcases locate_eq_ok h with ⟨found, rfl⟩ | ⟨found, old, rfl, -, hold⟩ | ⟨found, rfl, -, hold⟩
      · simp [fileAt?, h, Except.toOption, Place.file?]
      · simp [fileAt?, h, Except.toOption, Place.file?, hold]
      · simp [fileAt?, h, Except.toOption, Place.file?, hold]

theorem write_eq_ok_iff : w.write path content = .ok w' ↔
    ∃ location, w.fileAt? path = some location ∧ w' = w.set location content := by
  unfold write
  cases h : w.locate path with
  | error e => simp [fileAt?, h, Except.toOption]
  | ok place => cases place <;> simp [fileAt?, h, Except.toOption, Place.file?, set, eq_comm]

theorem hasPath_of_read (h : w.read path = .ok content) : w.hasPath path = true := by
  unfold read at h
  unfold hasPath
  cases hplace : w.locate path with
  | error e => cases e <;> simp [hplace] at h
  | ok place => cases place <;> simp [hplace] at h ⊢

/-- A walk leads to the same file after a file was written in a directory: the directories on the way
are the same, and a place that was vacant now holds the file. -/
theorem file?_walk_set (hparent : w.isDirectory location.dropLast = true) (content : List UInt8)
    (slash : Bool) (start : Location) (components : List Text) :
    ((w.set location content).walk slash start components).toOption.bind Place.file? =
      (w.walk slash start components).toOption.bind Place.file? := by
  induction components generalizing start with
  | nil => rfl
  | cons component rest ih =>
      rw [walk, walk]
      split
      · exact ih start
      split
      · exact ih (locationAbove start)
      split
      · rfl
      simp only [isDirectory_set hparent]
      split
      · exact ih _
      · rw [content?_set]
        by_cases hnext : start ++ [component] = location
        · rw [if_pos hnext]
          cases w.content? (start ++ [component]) with
          | some old => cases rest.all List.isEmpty <;> cases slash <;> rfl
          | none => cases rest.all List.isEmpty <;> cases slash <;> rfl
        · rw [if_neg hnext]

theorem fileAt?_set (hparent : w.isDirectory location.dropLast = true) (content : List UInt8)
    (path : Text) : (w.set location content).fileAt? path = w.fileAt? path := by
  unfold fileAt? locate
  split
  · rfl
  split
  · rfl
  exact file?_walk_set hparent content _ _ _

theorem fileAt?_write (h : w.write path content = .ok w') (other : Text) :
    w'.fileAt? other = w.fileAt? other := by
  obtain ⟨location, hfile, rfl⟩ := write_eq_ok_iff.mp h
  exact fileAt?_set (isDirectory_of_fileAt? hfile) content other

theorem content?_write (h : w.write path content = .ok w') (location : Location) :
    w'.content? location =
      if w.fileAt? path = some location then some content else w.content? location := by
  obtain ⟨written, hfile, rfl⟩ := write_eq_ok_iff.mp h
  rw [content?_set, hfile]
  simp only [Option.some.injEq, eq_comm]

theorem directories_write (h : w.write path content = .ok w') : w'.directories = w.directories := by
  obtain ⟨_, -, rfl⟩ := write_eq_ok_iff.mp h
  rfl

theorem read_write (h : w.write path content = .ok w') : w'.read path = .ok content := by
  obtain ⟨location, hfile, -⟩ := write_eq_ok_iff.mp h
  rw [read_eq_ok_iff]
  refine ⟨location, (fileAt?_write h path).trans hfile, ?_⟩
  rw [content?_write h, if_pos hfile]

theorem read_write_of_ne {other : Text} {old : List UInt8} (h : w.write path content = .ok w')
    (hne : w.fileAt? other ≠ w.fileAt? path) (hold : w.read other = .ok old) :
    w'.read other = .ok old := by
  obtain ⟨location, hfile, hcontent⟩ := read_eq_ok_iff.mp hold
  rw [read_eq_ok_iff]
  refine ⟨location, (fileAt?_write h other).trans hfile, ?_⟩
  rw [content?_write h, if_neg, hcontent]
  intro hpath
  exact hne (hfile.trans hpath.symm)

end Workspace

end HandlerGuard
