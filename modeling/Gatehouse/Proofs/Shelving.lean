import Gatehouse.Surroundings.Shelf

/-! What the commands of a cache do to a shelf, and what a cached directory asks for. Each command
changes what is kept under its own key only, and a find reads, asks the directory and writes. -/
namespace Gatehouse.Surroundings

open Tenant

/-! ## Commands -/

namespace Shelf

theorem perform_clock (shelf : Shelf) (command : Store.Command) :
    (shelf.perform command).2.clock = shelf.clock := rfl

/-- A command changes what is kept under its own key only. -/
theorem held?_perform_of_ne (shelf : Shelf) {command : Store.Command} {key : String}
    (h : key ≠ command.key) : (shelf.perform command).2.held? key = shelf.held? key := by
  unfold perform held?
  cases command with
  | get other =>
      dsimp only [Store.Data.apply]
      split <;> rfl
  | set other value seconds => exact shelf.data.lookup_insert_of_ne h _
  | delete other => exact Store.KeyValue.lookup_filter_ne h shelf.data.entries
  | count other quota =>
      dsimp only [Store.Data.apply, Store.Data.count]
      split
      · rfl
      · exact shelf.data.lookup_insert_of_ne h _
  | keep other time seconds => exact shelf.data.lookup_insert_of_ne h _

/-- To read changes nothing on the shelf. -/
theorem perform_get (shelf : Shelf) (key : String) : (shelf.perform (.get key)).2 = shelf := by
  unfold perform
  dsimp only [Store.Data.apply]
  split <;> rfl

/-- A value that is set is held until its time is over. -/
theorem held?_set (shelf : Shelf) (key value : String) (seconds : Nat) :
    (shelf.perform (.set key value seconds)).2.held? key =
      some ⟨.text value, some (shelf.clock + seconds * 1000000)⟩ :=
  List.lookup_cons_self

/-- What is deleted is not held. -/
theorem held?_delete (shelf : Shelf) (key : String) :
    (shelf.perform (.delete key)).2.held? key = none :=
  shelf.data.lookup_erase_self key

theorem readValue_get (shelf : Shelf) (key : String) :
    (shelf.perform (.get key)).1.readValue = .ok (shelf.data.read shelf.clock key) := by
  unfold perform
  dsimp only [Store.Data.apply]
  cases shelf.data.read shelf.clock key with
  | none => rfl
  | some text =>
      change Store.Reply.readValue (.bulk (Bytes.ofText text)) = _
      simp [Store.Reply.readValue, Store.Reply.succeed, Store.Reply.error?, Store.Reply.text?,
        bind, Except.bind]

/-- A text that is read is kept there, and its time is not over. -/
theorem held?_of_read {shelf : Shelf} {key text : String}
    (h : shelf.data.read shelf.clock key = some text) :
    ∃ expiry, shelf.held? key = some ⟨.text text, expiry⟩ ∧
      ∀ time, expiry = some time → shelf.clock < time := by
  unfold Store.Data.read Store.KeyValue.get? at h
  unfold held?
  cases hEntry : shelf.data.entries.lookup key with
  | none =>
      rw [hEntry] at h
      cases h
  | some entry =>
      obtain ⟨value, expiry⟩ := entry
      rw [hEntry] at h
      dsimp only at h
      split at h
      · next hLive =>
        cases value with
        | arrival time => cases h
        | text value =>
            cases h
            refine ⟨expiry, rfl, ?_⟩
            rintro time rfl
            simpa [Store.Entry.isLive] using hLive
      · cases h

/-- What was just written is read. -/
theorem read_set (shelf : Shelf) (key value : String) (ttl : Duration) :
    let after := (shelf.perform (.set key value ttl.secondsAtLeastOne)).2
    after.data.read after.clock key = some value := by
  have hHeld := shelf.held?_set key value ttl.secondsAtLeastOne
  have hTime : 1 ≤ ttl.secondsAtLeastOne := Nat.le_max_right ..
  unfold held? at hHeld
  dsimp only
  rw [Store.Data.read, Store.KeyValue.get?, hHeld, perform_clock]
  have hLive : shelf.clock < shelf.clock + ttl.secondsAtLeastOne * 1000000 := by omega
  simp [Store.Entry.isLive, hLive, Store.Stored.text?]

end Shelf

/-! ## Programs -/

/-- Two domains never share a key. -/
theorem key_injective (cache : Cache) {first second : String}
    (h : cache.key first = cache.key second) : first = second := by
  have hChars : (cache.key first).toList = (cache.key second).toList := congrArg String.toList h
  simp only [Cache.key, String.toList_append, List.append_cancel_left_eq] at hChars
  exact String.toList_inj.mp hChars

/-- A failure of the cache is taken for a miss. -/
theorem read_eq (cache : Cache) (domain : String) :
    cache.read domain = .ask (.readCache (cache.key domain)) [] fun
      | .ok found => .done found
      | .error error => .log (.warn "tenant cache read failed; falling back to lookup"
          [("error", error.message), ("backend", cache.backend)]) (.done none) := rfl

/-- A failure to write is noted, and nothing comes of it. -/
theorem write_eq (cache : Cache) (domain id : String) :
    cache.write domain id = .ask (.writeCache (cache.key domain) id cache.ttl) [] fun
      | .ok () => .done ()
      | .error error => .log (.warn "tenant cache write failed"
          [("error", error.message), ("backend", cache.backend)]) (.done ()) := rfl

/-- To forget a domain is to delete its key. -/
theorem invalidate_eq (cache : Cache) (domain : String) :
    cache.invalidate domain = .ask (.deleteCache (cache.key domain)) [] fun
      | .ok removed => .done (.ok (decide (0 < removed)))
      | .error error => .done (.error error) := rfl

/-- What a dispatcher without a cache tells of an answer of the directory. -/
def told : Dispatcher → Except LookupError String → Except LookupError String
  | .table, .error (.backend _) => .error tableFailure
  | _, answer => answer

/-- The dispatcher asks the directory, and does not look into a cache itself. -/
def IsDirect (inner : Dispatcher) : Prop :=
  inner = .directory ∨ inner = .table

/-- A direct directory is asked once, and what it answers is told after it was noted. -/
theorem find_eq_of_isDirect {inner : Dispatcher} (h : IsDirect inner) (domain : String) :
    ∃ events : Except LookupError String → List Event,
      inner.find domain = .ask (.lookup domain) [] fun answer =>
        (events answer).foldr .log (.done (told inner answer)) := by
  rcases h with rfl | rfl
  · exact ⟨fun _ => [], rfl⟩
  · refine ⟨fun
      | .error (.backend detail) =>
        [.error "tenant lookup failed" [("domain", domain), ("error", detail)]]
      | _ => [], ?_⟩
    change Program.ask _ _ _ = Program.ask _ _ _
    congr 1
    funext answer
    rcases answer with error | id
    · cases error <;> rfl
    · rfl

theorem exists_told_error (inner : Dispatcher) (error : LookupError) :
    ∃ shown, told inner (.error error) = .error shown := by
  unfold told
  split
  · exact ⟨_, rfl⟩
  · exact ⟨_, rfl⟩

/-- An id is told as the directory gave it. -/
theorem told_eq_ok_iff {inner : Dispatcher} {answer : Except LookupError String} {id : String} :
    told inner answer = .ok id ↔ answer = .ok id := by
  unfold told
  split <;> simp

/-- A find in which the cache is of no help. -/
def findMissed (cache : Cache) (inner : Dispatcher) (domain : String) :
    Program (Except LookupError String) :=
  (inner.find domain).bind fun
    | .error error => .done (.error error)
    | .ok found => (cache.write domain found).bind fun _ => .done (.ok found)

/-- A find reads the cache, and goes on with what it finds there. -/
theorem find_eq (cache : Cache) (inner : Dispatcher) (domain : String) :
    (Dispatcher.cached cache inner).find domain = (cache.read domain).bind fun
      | some cached => .done (.ok cached)
      | none => findMissed cache inner domain := rfl

def fiveMinutes : Cache := ⟨.ofSeconds 300, Cache.defaultSpace, "valkey"⟩

end Gatehouse.Surroundings
