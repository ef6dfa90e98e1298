import OddBox.ExpiringCache
import OddBox.DirectoryServer.Handle

/-!
Runs of the directory server over files and sites that do not change: requests at any times, and
the clean-up of the cache between them. The server is a service with an expiring cache.
-/

namespace OddBox.DirectoryServer

open OddBox.Configuration OddBox.ExpiringCache

/-- The files, and the site of each host name. -/
structure World where
  tree : FileTree
  target : String → DirServer
  target_hostName : ∀ host, (target host).hostName = host

/-- A request with the host name it was resolved to. -/
structure Visit where
  host : String
  req : Request

inductive Happening where
  | visit (now : Nat) (visit : Visit)
  | dropOld (now : Nat)

variable (libs : Libraries) (world : World)

def World.handle (cache : ResponseCache) (now : Nat) (visit : Visit) : Reply × ResponseCache :=
  DirectoryServer.handle libs world.tree cache now (world.target visit.host) visit.req

/-- `handle` with an empty cache. -/
def World.handleAlone (visit : Visit) : Reply := (world.handle libs (fun _ => none) 0 visit).1

/-- The cache after a run. -/
def World.cacheAfter (happenings : List Happening) : ResponseCache :=
  happenings.foldl
    (fun cache happening =>
      match happening with
      | .visit now visit => (world.handle libs cache now visit).2
      | .dropOld now => dropOld cache now)
    fun _ => none

/-! ## The service -/

/-- The key of a request whose path can be decoded. -/
def World.key (visit : Visit) : Option String :=
  (libs.decode visit.req.path).toOption.map (cacheKey (world.target visit.host) visit.req)

/-- What the request puts in the cache, when nothing is found in it. -/
def World.stores (visit : Visit) : Option Response :=
  match libs.decode visit.req.path with
  | .error _ => none
  | .ok pathDecoded =>
    (serve libs world.tree (world.target visit.host) visit.req pathDecoded
      (cacheKey (world.target visit.host) visit.req pathDecoded)).2

/-- A response from the cache. -/
def replay (key : String) (resp : Response) : Reply :=
  if headerValid key then .ok { resp with memCached := some "true", cacheKey := some key }
  else .error (.error "InvalidHeaderValue")

def World.service : Service Visit String Response Reply where
  key := world.key libs
  answer := world.handleAlone libs
  stores := world.stores libs
  replay := replay
  lifetime := cacheLifetime

def Happening.event : Happening → Event Visit Response
  | .visit now asked => .request now asked
  | .dropOld now => .forget fun entry => !decide (30 < (now - entry.1) / 1000000000)

theorem cachedFreshResponse_some {cache : ResponseCache} {now : Nat} {key : String}
    {resp : Response} (h : (world.service libs).find cache now key = some resp) :
    cachedFreshResponse cache now key = ((replay key resp).map some, cache) := by
  obtain ⟨inserted, hentry, hfresh⟩ := (world.service libs).find_eq_some.mp h
  change now - inserted < cacheLifetime at hfresh
  simp only [cachedFreshResponse, hentry]
  rw [if_pos hfresh, replay]
  split <;> rfl

theorem cachedFreshResponse_none {cache : ResponseCache} {now : Nat} {key : String}
    (h : (world.service libs).find cache now key = none) :
    cachedFreshResponse cache now key = (.ok none, Function.update cache key none) := by
  unfold Service.find at h
  unfold cachedFreshResponse
  cases hentry : cache key with
  | none =>
    simp only
    rw [← hentry, Function.update_eq_self]
  | some entry =>
    obtain ⟨inserted, resp⟩ := entry
    simp only [hentry] at h ⊢
    split at h
    · cases h
    · rename_i hstale
      change ¬ now - inserted < cacheLifetime at hstale
      rw [if_neg hstale]

/-- What is done where the path can be decoded and nothing is found. -/
theorem handle_none {cache : ResponseCache} {now : Nat} {asked : Visit} {pathDecoded : String}
    (hdecode : libs.decode asked.req.path = .ok pathDecoded)
    (h : (world.service libs).find cache now
      (cacheKey (world.target asked.host) asked.req pathDecoded) = none) :
    let key := cacheKey (world.target asked.host) asked.req pathDecoded
    let served := serve libs world.tree (world.target asked.host) asked.req pathDecoded key
    world.handle libs cache now asked =
      (served.1, Function.update cache key (served.2.map (now, ·))) := by
  simp only [World.handle, handle, hdecode, cachedFreshResponse_none libs world h]
  generalize serve libs world.tree (world.target asked.host) asked.req pathDecoded _ = served
  obtain ⟨reply, cached⟩ := served
  cases cached with
  | none => rfl
  | some resp =>
    simp only [Option.map_some, Function.update_idem]

/-- With an empty cache a request is served. -/
theorem handleAlone_eq {asked : Visit} {pathDecoded : String}
    (hdecode : libs.decode asked.req.path = .ok pathDecoded) :
    world.handleAlone libs asked =
      (serve libs world.tree (world.target asked.host) asked.req pathDecoded
        (cacheKey (world.target asked.host) asked.req pathDecoded)).1 := by
  have hempty : (world.service libs).find (fun _ => none) 0
      (cacheKey (world.target asked.host) asked.req pathDecoded) = none := rfl
  rw [World.handleAlone, handle_none libs world hdecode hempty]

/-- `handle` is one step of the service. -/
theorem handle_eq (cache : ResponseCache) (now : Nat) (asked : Visit) :
    world.handle libs cache now asked =
      ((world.service libs).reply cache now asked,
        (world.service libs).next cache now asked) := by
  cases hdecode : libs.decode asked.req.path with
  | error e =>
    have hkey : (world.service libs).key asked = none := by
      change (libs.decode asked.req.path).toOption.map _ = none
      rw [hdecode]
      rfl
    have halone : (world.service libs).answer asked = .error (.error e) := by
      change world.handleAlone libs asked = _
      simp only [World.handleAlone, World.handle, handle, hdecode]
    rw [Service.reply_keyless _ hkey, Service.next_keyless _ hkey, halone]
    simp only [World.handle, handle, hdecode]
  | ok pathDecoded =>
    have hkey : (world.service libs).key asked =
        some (cacheKey (world.target asked.host) asked.req pathDecoded) := by
      change (libs.decode asked.req.path).toOption.map _ = _
      rw [hdecode]
      rfl
    cases hfind : (world.service libs).find cache now
      (cacheKey (world.target asked.host) asked.req pathDecoded) with
    | none =>
      have hstores : (world.service libs).stores asked =
          (serve libs world.tree (world.target asked.host) asked.req pathDecoded
            (cacheKey (world.target asked.host) asked.req pathDecoded)).2 := by
        change world.stores libs asked = _
        simp only [World.stores, hdecode]
      rw [handle_none libs world hdecode hfind, Service.reply_missed _ hkey hfind,
        Service.next_missed _ hkey hfind, hstores]
      exact congrArg₂ Prod.mk (handleAlone_eq libs world hdecode).symm rfl
    | some resp =>
      rw [Service.reply_given _ hkey hfind, Service.next_given _ hkey hfind]
      simp only [World.handle, handle, hdecode, cachedFreshResponse_some libs world hfind]
      change _ = (replay _ resp, cache)
      cases replay (cacheKey (world.target asked.host) asked.req pathDecoded) resp with
      | error e => rfl
      | ok marked => rfl

theorem cacheAfter_eq (happenings : List Happening) :
    world.cacheAfter libs happenings =
      (world.service libs).after (happenings.map Happening.event) := by
  induction happenings using List.reverseRecOn with
  | nil => rfl
  | append_singleton happenings happening ih =>
    rw [List.map_append, List.map_singleton, Service.after_append, ← ih, World.cacheAfter,
      List.foldl_concat]
    cases happening with
    | visit now asked =>
      exact congrArg Prod.snd (handle_eq libs world _ now asked)
    | dropOld now =>
      funext key
      change dropOld (world.cacheAfter libs happenings) now key =
        ((world.cacheAfter libs happenings) key).filter _
      unfold dropOld
      cases world.cacheAfter libs happenings key with
      | none => rfl
      | some entry =>
        simp only [Option.filter]
        by_cases hold : 30 < (now - entry.1) / 1000000000
        · rw [if_pos hold, if_neg (by simp only [hold, decide_true, Bool.not_true,
            Bool.false_eq_true, not_false_eq_true])]
        · rw [if_neg hold, if_pos (by simp only [hold, decide_false, Bool.not_false])]

end OddBox.DirectoryServer
