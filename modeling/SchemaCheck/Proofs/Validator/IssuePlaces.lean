import SchemaCheck.Proofs.Validator.Issues

namespace SchemaCheck

/-- A missing key is located by the object without it. -/
inductive Located (x : Json) : List String → IssueCode → Prop
  | value {segments : List String} {code : IssueCode} {y : Json} (hc : code ≠ .required)
    (h : x.Leads segments y) : Located x segments code
  | missing {segments : List String} {name : String} {members : Json.Members}
    (h : x.Leads segments (.object members)) (hn : members.lookup name = none) :
    Located x (segments ++ [name]) .required

theorem Located.of_partAt {x y : Json} {segment : String} {segments : List String}
    {code : IssueCode} (h : Json.PartAt x segment y) (hl : Located y segments code) :
    Located x (segment :: segments) code := by
  cases hl with
  | value hc hl => exact .value hc (.step h hl)
  | missing hl hn => exact .missing (.step h hl) hn

/-- The issue stands at the root, or where segments below the path lead to in the value. -/
def LocatedFrom (path : String) (x : Json) (i : Issue) : Prop :=
  i.path = "/" ∨ ∃ segments, Pointer.split i.path = Pointer.split path ++ segments ∧
    Located x segments i.code

theorem reportable_locatedFrom : Reportable LocatedFrom where
  faults {path x i} h := by
    cases h with
    | @report code h message =>
        by_cases hp : path.isEmpty = true
        · left
          rw [Issue.at_, if_pos hp]
        · right
          refine ⟨[], ?_, .value h (.here x)⟩
          rw [Issue.at_, if_neg hp, List.append_nil]
  missing {path name members} h := by
    right
    exact ⟨[name], Pointer.split_child path name, .missing (.here _) h⟩
  part {path segment x y i} h hi := by
    rcases hi with hi | ⟨segments, hs, hl⟩
    · exact .inl hi
    · right
      refine ⟨segment :: segments, ?_, hl.of_partAt h⟩
      rw [hs, Pointer.split_child, List.append_assoc, List.singleton_append]

/-- The path of an issue leads to a value, that of a missing key to an object without it. -/
theorem parse_locates {v : Validator} {x : Json} {e : ValidationError} {i : Issue}
    (h : v.parse x = .error e) (hi : i ∈ e.issues) (hp : i.path ≠ "/") :
    (i.code ≠ .required → ∃ y, x.Leads (Pointer.split i.path) y) ∧
      (i.code = .required → ∃ segments name members,
        Pointer.split i.path = segments ++ [name] ∧ x.Leads segments (.object members) ∧
          members.lookup name = none) := by
  have hrun := (mem_issues_iff v x i).1 ⟨e, h, hi⟩
  obtain ⟨found, hr, hfound⟩ := reportable_locatedFrom.run_adds v "" x []
  have hf : i ∈ found := by rwa [hr, List.nil_append] at hrun
  obtain ⟨segments, hs, hl⟩ := (hfound i hf).resolve_left hp
  have hsplit : Pointer.split i.path = segments := hs
  rw [hsplit]
  generalize i.code = code at hl
  cases hl with
  | value hc hl => exact ⟨fun _ => ⟨_, hl⟩, fun h => absurd h hc⟩
  | missing hl hn => exact ⟨fun h => absurd rfl h, fun _ => ⟨_, _, _, rfl, hl, hn⟩⟩

def flagLists : Validator :=
  .ofShape (.object [⟨"a/b", true, .ofShape (.array
    (.ofShape (.object [⟨"~", true, .ofShape .boolean⟩] .accept [])) [])⟩] .accept [])

def poorFlags : Json := .object [("a/b", .array [.object [], .null])]

theorem parse_flagLists :
    flagLists.parse poorFlags = .error ⟨[⟨"/a~1b/0/~0", .required, "Required"⟩,
      ⟨"/a~1b/1", .invalidType, "Expected object, received null"⟩]⟩ := by
  rfl

theorem parse_locates_poorFlags :
    (∃ y, poorFlags.Leads (Pointer.split "/a~1b/1") y) ∧
      ∃ segments name members, Pointer.split "/a~1b/0/~0" = segments ++ [name] ∧
        poorFlags.Leads segments (.object members) ∧ members.lookup name = none := by
  have hpoor := parse_flagLists
  constructor
  · exact (parse_locates hpoor (List.mem_cons_of_mem _ (List.mem_cons_self ..)) (by decide)).1
      (by decide)
  · exact (parse_locates hpoor (List.mem_cons_self ..) (by decide)).2 rfl

end SchemaCheck
