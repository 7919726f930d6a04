import HomeVoice.Api.Path

/-!
# Routes

What a path names, and the methods that may be used on it. `HEAD` is `GET` without the body.
-/

namespace HomeVoice.Api

/-- What a request is about. A device is named by a segment of the path, which is missing if it is
not UTF-8. -/
inductive Route where
  | health
  | devices
  | device (id : Option String)
  | deviceEnabled (id : Option String)
  | deviceAssignment (id : Option String)
  | batch
  | deviceTypes
  | locations
  | validation
  | grammar
  | grammarText
  | regeneration
  | commands
  | resolution
  deriving DecidableEq, Repr

/-- A method that some route takes. -/
inductive Method where
  | get | put | post
  deriving DecidableEq, Repr

def Method.ofText? : String → Option Method
  | "GET" | "HEAD" => some .get
  | "PUT" => some .put
  | "POST" => some .post
  | _ => none

theorem Method.ofText?_eq_post {text : String} (found : Method.ofText? text = some .post) :
    text = "POST" := by
  unfold ofText? at found
  split at found
  case h_4 => rfl
  all_goals cases found

namespace Route

/-- The route of the segments behind `/api/`. -/
def ofSegments? (pieces : List (List Char)) : Option Route :=
  match pieces.map String.ofList, pieces with
  | ["devices"], _ => some .devices
  | ["devices", _], [_, id] => if id.isEmpty then none else some (.device (segmentValue id))
  | ["devices", _, "enabled"], [_, id, _] => some (.deviceEnabled (segmentValue id))
  | ["devices", _, "assignment"], [_, id, _] => some (.deviceAssignment (segmentValue id))
  | ["import"], _ => some .batch
  | ["device-types"], _ => some .deviceTypes
  | ["locations"], _ => some .locations
  | ["validation"], _ => some .validation
  | ["grammar"], _ => some .grammar
  | ["grammar", "text"], _ => some .grammarText
  | ["grammar", "regenerate"], _ => some .regeneration
  | ["commands"], _ => some .commands
  | ["commands", "resolve"], _ => some .resolution
  | _, _ => none

/-- The route of a request's target. -/
def ofTarget? (target : String) : Option Route :=
  match segments (pathOf target.toList) with
  | [] :: first :: rest =>
    if first = "health".toList ∧ rest = [] then some .health
    else if first = "api".toList then ofSegments? rest
    else none
  | _ => none

/-- The methods that may be used on a route. -/
def methods : Route → List Method
  | .health | .devices | .validation | .grammar | .grammarText => [.get]
  | .device _ => [.get, .put]
  | .deviceEnabled _ | .deviceAssignment _ => [.put]
  | .deviceTypes | .locations => [.get, .post]
  | .batch | .regeneration | .commands | .resolution => [.post]

theorem segments_of_commands {pieces : List (List Char)}
    (found : ofSegments? pieces = some .commands) : pieces = ["commands".toList] := by
  unfold ofSegments? at found
  split at found
  case h_12 names =>
    obtain ⟨piece, rfl, name⟩ := List.map_eq_singleton_iff.mp names
    rw [← name, String.toList_ofList]
  case h_2 => split at found <;> cases found
  all_goals cases found

/-- There is one path for commands. -/
theorem ofTarget?_eq_commands_iff {target : String} :
    ofTarget? target = some .commands ↔ pathOf target.toList = "/api/commands".toList := by
  constructor
  · intro found
    unfold ofTarget? at found
    split at found
    case h_1 first rest cut =>
      split at found
      · cases found
      · split at found
        case isTrue api =>
          rw [← intercalate_segments (pathOf target.toList), cut, segments_of_commands found, api]
          decide
        case isFalse => cases found
    case h_2 => cases found
  · intro path
    rw [ofTarget?, path]
    decide +kernel

theorem ofTarget?_of_resolution {target : String}
    (path : pathOf target.toList = "/api/commands/resolve".toList) :
    ofTarget? target = some .resolution := by
  rw [ofTarget?, path]
  decide +kernel

end Route

example : ["/health", "/api/devices/a%20b?x", "/api/devices//enabled"].map Route.ofTarget? =
    [some .health, some (.device (some "a b")), some (.deviceEnabled (some ""))] := by
  decide +kernel
example : ["/", "/api", "/api/", "/API/devices", "/api/devices/", "/api/devices/a/b",
    "/health/"].map (fun target => (Route.ofTarget? target).isNone) =
      List.replicate 7 true := by decide +kernel

end HomeVoice.Api
