import VelocityScript.Session.Files

/-!
# Writing files

A write puts its text at the place that its path leads to, and leaves what all
other places hold.  After several writes a place holds the text of the last one
that leads to it.
-/

namespace VelocityScript.Session

/-- The place that a path leads to where nothing stops the way. -/
def Place.ofPath (path : String) : Place :=
  (pathPieces path.toList).foldl Place.enter (Place.origin path.toList)

namespace FileStore

/-! ## One write -/

theorem eq_of_follow {store : FileStore} {first last : Place}
    {pieces : List (List Char)}
    (followed : store.follow first pieces = .ok last) :
    last = pieces.foldl Place.enter first := by
  induction pieces generalizing first with
  | nil =>
      cases followed
      rfl
  | cons piece pieces inductionHypothesis =>
      rw [follow] at followed
      split at followed
      · exact inductionHypothesis followed
      · cases followed

theorem eq_of_place {store : FileStore} {path : String} {place : Place}
    (found : store.place path.toList = .ok place) :
    place = Place.ofPath path := by
  unfold FileStore.place at found
  split at found
  · cases found
  · exact eq_of_follow found

theorem files_of_makeDirectory {store made : FileStore} {path : List Char}
    (done : store.makeDirectory path = .ok made) :
    made.files = store.files := by
  unfold makeDirectory at done
  cases found : store.place path with
  | error problem =>
      rw [found] at done
      cases done
  | ok place =>
      simp only [found, bind, Except.bind] at done
      split at done
      · cases done
        rfl
      · split at done
        · cases done
        · split at done
          · cases done
          · cases done
            rfl

theorem files_of_makeDirectories {store made : FileStore} {path : List Char}
    (bound : Nat) (done : store.makeDirectories bound path = .ok made) :
    made.files = store.files := by
  -- The recursion of `makeDirectories`, from a directory to the one above it.
  induction bound generalizing path made with
  | zero => exact files_of_makeDirectory done
  | succ bound inductionHypothesis =>
      rw [makeDirectories] at done
      split at done
      · next first rest _ _ =>
          cases above : store.makeDirectories bound (first :: rest) with
          | error problem =>
              rw [above] at done
              cases done
          | ok middle =>
              rw [above] at done
              have last : made.files = middle.files := files_of_makeDirectory done
              exact last.trans (inductionHypothesis above)
      · exact files_of_makeDirectory done

theorem files_of_makeParent {store made : FileStore} {path : String}
    (done : store.makeParent path = .ok made) :
    made.files = store.files := by
  unfold makeParent at done
  split at done
  · cases done
    rfl
  · cases done
    rfl
  · next parent _ _ =>
      split at done
      · next middle ran =>
          cases done
          exact files_of_makeDirectories parent.length ran
      · cases done

theorem content?_of_replace {store after : FileStore} {path content : String}
    (done : store.replace path content = .ok after) (place : Place) :
    after.content? place =
      if place = Place.ofPath path then some (.text content)
      else store.content? place := by
  unfold replace at done
  cases found : store.place path.toList with
  | error problem =>
      rw [found] at done
      cases done
  | ok target =>
      simp only [found, bind, Except.bind] at done
      split at done
      · cases done
      · split at done
        · cases done
        · cases done
          rw [← eq_of_place found]
          by_cases same : place = target
          · rw [if_pos same, same]
            exact content?_put_self store target content
          · rw [if_neg same]
            exact content?_put_of_ne store content same

/-- A write changes what one place holds. -/
theorem content?_of_write {store after : FileStore} {path content : String}
    (done : store.write path content = .ok after) (place : Place) :
    after.content? place =
      if place = Place.ofPath path then some (.text content)
      else store.content? place := by
  unfold FileStore.write at done
  cases parent : store.makeParent path with
  | error problem =>
      rw [parent] at done
      cases done
  | ok made =>
      simp only [parent, bind, Except.bind] at done
      split at done
      · next written replaced =>
          cases done
          have kept : made.content? place = store.content? place := by
            unfold content?
            rw [files_of_makeParent parent]
          rw [← kept]
          exact content?_of_replace replaced place
      · cases done

/-! ## Several writes -/

/-- The text that the last of several writes puts at a place, if one of them
leads there. -/
def lastWritten? : List (String × String) → Place → Option String
  | [], _ => none
  | (path, content) :: others, place =>
      (lastWritten? others place).or
        (if place = Place.ofPath path then some content else none)

/-- Every place holds what the last write put there; where no write leads, it
holds what it held before. -/
def Written (before : FileStore) (writes : List (String × String))
    (after : FileStore) : Prop :=
  ∀ place, after.content? place =
    ((lastWritten? writes place).map Content.text).or (before.content? place)

theorem Written.nil (store : FileStore) : Written store [] store :=
  fun _ => rfl

theorem Written.cons {before middle after : FileStore} {path content : String}
    {writes : List (String × String)}
    (first : before.write path content = .ok middle)
    (rest : Written middle writes after) :
    Written before ((path, content) :: writes) after := by
  intro place
  rw [rest place, content?_of_write first place, lastWritten?]
  cases lastWritten? writes place with
  | some later => rfl
  | none =>
      by_cases here : place = Place.ofPath path
      · rw [if_pos here, if_pos here]
        rfl
      · rw [if_neg here, if_neg here]
        rfl

end FileStore

end VelocityScript.Session
