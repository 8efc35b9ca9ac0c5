import Hazard.Proofs.Analysis.Listing
import Hazard.Proofs.Analysis.Session
import Mathlib.Data.List.Nodup
import Mathlib.Logic.Relation

/-!
# What workspaces hold

Clients of one workspace open sources and leave them again, in any order and at any time, normally or
by an error.  Whatever they do, the workspace holds the sources of the blocks that are open, each
under a key of its own, and no others.  So a workspace holds as many entries as before, and one for each
block that was opened meanwhile and not left yet.
-/

namespace Hazard
namespace Workspace

/-- How a block is left. -/
inductive Exit where
  | normal
  | raised (failure : Failure)

/-- A block in which a client has a source open, under a key of the workspace. -/
structure Block where
  /-- Whoever opened it. -/
  client : Nat
  /-- The key that the workspace gave out for it. -/
  key : Nat
  /-- The source that is open in it. -/
  source : Source

namespace Block

/-- What the workspace should hold for a block. -/
def entry (block : Block) : Nat × Source := (block.key, block.source)

/-- The block that a client enters when it opens a source. -/
def opening (client : Nat) (workspace : Workspace) (source : Source) : Block :=
  ⟨client, (workspace.opened source).1, source⟩

end Block

/-- A workspace, and the blocks that are open on it. -/
structure Floor where
  /-- The workspace that all clients share. -/
  workspace : Workspace
  /-- The open blocks, the latest in front. -/
  blocks : List Block

namespace Floor

/-- Nothing is open. -/
def vacant : Floor := ⟨.empty, []⟩

/-- One step of one client.  A document without a grammar cannot be opened, and any block can be left at
any time. -/
inductive Step : Floor → Floor → Prop
  | opens (client : Nat) {document : Document} {source : Source}
      (read : Source.ofDocument? document = some source) (floor : Floor) :
      Step floor
        ⟨(floor.workspace.opened source).2, .opening client floor.workspace source :: floor.blocks⟩
  | refused (client : Nat) {document : Document} (unread : Source.ofDocument? document = none)
      (floor : Floor) : Step floor floor
  | leaves (exit : Exit) (workspace : Workspace) (before : List Block) (block : Block)
      (after : List Block) :
      Step ⟨workspace, before ++ block :: after⟩ ⟨workspace.closed block.key, before ++ after⟩

/-- Any steps of any clients. -/
def Runs : Floor → Floor → Prop := Relation.ReflTransGen Step

/-- The books are in order: the entries are those of the open blocks, and their keys are different
and were all given out. -/
structure InOrder (floor : Floor) : Prop where
  /-- The entries are those of the open blocks. -/
  entries : floor.workspace.entries = floor.blocks.map Block.entry
  /-- No two open blocks have the same key. -/
  distinct : (floor.blocks.map Block.key).Nodup
  /-- Every key was given out. -/
  given : ∀ block ∈ floor.blocks, block.key < floor.workspace.next

theorem inOrder_vacant : vacant.InOrder := ⟨rfl, List.nodup_nil, List.forall_mem_nil _⟩

/-- Dropping the entry of one block keeps those of the others. -/
theorem filter_entries {before after : List Block} {block : Block}
    (distinct : ((before ++ block :: after).map Block.key).Nodup) :
    ((before ++ block :: after).map Block.entry).filter (fun entry => entry.1 != block.key) =
      (before ++ after).map Block.entry := by
  have moved : ((block :: (before ++ after)).map Block.key).Nodup :=
    (List.perm_middle.map Block.key).nodup_iff.mp distinct
  rw [List.map_cons, List.nodup_cons] at moved
  have kept : ∀ other ∈ before ++ after, (other.key != block.key) = true := by
    intro other member
    rw [bne_iff_ne]
    exact fun same => moved.1 (List.mem_map.mpr ⟨other, member, same⟩)
  have dropped : ¬ (block.key != block.key) = true := by
    rw [bne_self_eq_false]
    exact Bool.false_ne_true
  rw [List.filter_map]
  apply congrArg (List.map Block.entry)
  calc (before ++ block :: after).filter (fun other => other.key != block.key)
      = (before ++ after).filter fun other => other.key != block.key := by
        rw [List.filter_append, List.filter_cons, if_neg dropped, ← List.filter_append]
    _ = before ++ after := List.filter_eq_self.mpr kept

/-- Every step of every client keeps the books in order. -/
theorem InOrder.step {floor next : Floor} (inOrder : floor.InOrder) (step : Step floor next) :
    next.InOrder := by
  cases step with
  | opens client read =>
      refine ⟨?_, ?_, ?_⟩
      · rw [opened, inOrder.entries]
        rfl
      · rw [List.map_cons, List.nodup_cons]
        refine ⟨fun given => ?_, inOrder.distinct⟩
        obtain ⟨block, member, same⟩ := List.mem_map.mp given
        exact absurd same (Nat.ne_of_lt (inOrder.given block member))
      · intro block member
        rcases List.mem_cons.mp member with rfl | member
        · exact Nat.lt_succ_self _
        · exact Nat.lt_succ_of_lt (inOrder.given block member)
  | refused => exact inOrder
  | leaves exit workspace before block after =>
      have remaining : (before ++ after).Sublist (before ++ block :: after) :=
        (List.sublist_cons_self block after).append_left before
      refine ⟨?_, ?_, ?_⟩
      · rw [closed, inOrder.entries]
        exact filter_entries inOrder.distinct
      · exact inOrder.distinct.sublist (remaining.map Block.key)
      · exact fun other member => inOrder.given other (remaining.subset member)

theorem InOrder.runs {floor next : Floor} (inOrder : floor.InOrder) (runs : Runs floor next) :
    next.InOrder := by
  induction runs with
  | refl => exact inOrder
  | tail _ step ih => exact ih.step step

/-- What is true of a workspace at any time. -/
structure Exact (floor : Floor) : Prop where
  /-- The entries are those of the open blocks, each with its own source. -/
  entries : floor.workspace.entries = floor.blocks.map Block.entry
  /-- There are as many entries as open blocks. -/
  size : floor.workspace.size = floor.blocks.length
  /-- A source that is opened gets a key that no open block has. -/
  fresh : ∀ source, ∀ block ∈ floor.blocks, block.key ≠ (floor.workspace.opened source).1
  /-- Leaving a block removes its entry and no other. -/
  closed : ∀ before block after, floor.blocks = before ++ block :: after →
    (floor.workspace.closed block.key).entries = (before ++ after).map Block.entry

theorem InOrder.exact {floor : Floor} (inOrder : floor.InOrder) : floor.Exact where
  entries := inOrder.entries
  size := by rw [Workspace.size, inOrder.entries, List.length_map]
  fresh source block member := Nat.ne_of_lt (inOrder.given block member)
  closed before block after blocks := by
    rw [Workspace.closed, inOrder.entries, blocks]
    exact filter_entries (blocks ▸ inOrder.distinct)

end Floor

end Workspace

namespace Station

open Workspace

/-- The detector is the same, and its workspace was used by clients that have left all blocks they
opened, but these. -/
structure Hosts (before : Station) (inside : List Block) (after : Station) : Prop where
  /-- The detector is the same. -/
  detector : after.detector = before.detector
  /-- Whatever blocks of others are open, the clients come from one workspace to the other. -/
  runs : ∀ blocks, Floor.Runs ⟨before.workspace, blocks⟩ ⟨after.workspace, inside ++ blocks⟩

namespace Hosts

variable {before after : Station} {inside : List Block}

theorem refl (station : Station) : station.Hosts [] station := ⟨rfl, fun _ => .refl⟩

/-- A client opens a source. -/
theorem opens (hosts : before.Hosts inside after) (client : Nat) {document : Document}
    {source : Source} (read : Source.ofDocument? document = some source) :
    before.Hosts (.opening client after.workspace source :: inside)
      { after with workspace := (after.workspace.opened source).2 } :=
  ⟨hosts.detector, fun blocks =>
    (hosts.runs blocks).tail (.opens client read ⟨after.workspace, inside ++ blocks⟩)⟩

/-- A client leaves a block. -/
theorem leaves {front back : List Block} {block : Block}
    (hosts : before.Hosts (front ++ block :: back) after) (exit : Exit) :
    before.Hosts (front ++ back) { after with workspace := after.workspace.closed block.key } := by
  refine ⟨hosts.detector, fun blocks => ?_⟩
  have runs := hosts.runs blocks
  have step := Floor.Step.leaves exit after.workspace front block (back ++ blocks)
  rw [List.append_assoc, List.cons_append] at runs
  rw [← List.append_assoc] at step
  exact runs.tail step

theorem trans {last : Station} (early : before.Hosts [] after) (late : after.Hosts inside last) :
    before.Hosts inside last :=
  ⟨late.detector.trans early.detector, fun blocks => (early.runs blocks).trans (late.runs blocks)⟩

/-- There are as many entries as before, and one for each block that is open. -/
theorem size_eq (hosts : before.Hosts inside after)
    {blocks : List Block} (reached : Floor.vacant.Runs ⟨before.workspace, blocks⟩) :
    after.workspace.size = before.workspace.size + inside.length := by
  have earlier := (Floor.inOrder_vacant.runs reached).exact.size
  have later := (Floor.inOrder_vacant.runs (reached.trans (hosts.runs blocks))).exact.size
  rw [later, earlier, List.length_append, Nat.add_comm]

end Hosts

/-- The station after it was asked to look at a document, if it applies. -/
def visited (applies : Detector → Bool) (vocabulary : Vocabulary) (document : Document)
    (station : Station) : Station :=
  if applies station.detector then (station.run vocabulary document).1 else station

/-- A run opens a block and leaves it, whatever comes of the examination. -/
theorem hosts_run (station : Station) (vocabulary : Vocabulary) (document : Document) :
    station.Hosts [] (station.run vocabulary document).1 := by
  unfold run
  cases read : Source.ofDocument? document with
  | none => exact .refl station
  | some source =>
      have opened : station.Hosts ([] ++ .opening 0 station.workspace source :: [])
          { station with workspace := (station.workspace.opened source).2 } :=
        (Hosts.refl station).opens 0 read
      exact opened.leaves .normal

theorem hosts_visited (applies : Detector → Bool) (vocabulary : Vocabulary)
    (document : Document) (station : Station) :
    station.Hosts [] (station.visited applies vocabulary document) := by
  rw [visited]
  split
  · exact station.hosts_run vocabulary document
  · exact .refl station

end Station

namespace Analyzer

open Workspace

/-- Every workspace is in a state that its clients can bring about. -/
def InUse (analyzer : Analyzer) : Prop :=
  ∀ station ∈ analyzer.stations, ∃ blocks, Floor.vacant.Runs ⟨station.workspace, blocks⟩

theorem runStations_stations (applies : Detector → Bool) (vocabulary : Vocabulary)
    (document : Document) (stations : List Station) :
    (runStations applies vocabulary document stations).1 =
      stations.map (Station.visited applies vocabulary document) := by
  induction stations with
  | nil => rfl
  | cons station stations ih =>
      rw [List.map_cons, ← ih, Station.visited]
      rcases ran : station.run vocabulary document with ⟨after, outcome⟩
      by_cases applied : applies station.detector <;> simp [runStations, applied, ran]

/-- A call lets each station be revisited, on its own. -/
def Revisits (before after : Analyzer) : Prop :=
  ∃ visit : Station → Station, (∀ station : Station, station.Hosts [] (visit station)) ∧
    after.stations = before.stations.map visit

theorem Revisits.refl {before after : Analyzer} (same : after.stations = before.stations) :
    before.Revisits after :=
  ⟨id, Station.Hosts.refl, by rw [same, List.map_id]⟩

theorem Revisits.trans {first second third : Analyzer} (early : first.Revisits second)
    (late : second.Revisits third) : first.Revisits third := by
  obtain ⟨visit, revisits, stations⟩ := early
  obtain ⟨visit', revisits', stations'⟩ := late
  refine ⟨visit' ∘ visit, fun station => (revisits station).trans (revisits' _), ?_⟩
  rw [stations', stations, List.map_map]

theorem revisits_analyzeFile (analyzer : Analyzer) (options : AnalysisOptions)
    (document : Document) : analyzer.Revisits (analyzer.analyzeFile options document).1 := by
  rw [analyzeFile]
  split
  · exact .refl rfl
  · split
    · exact .refl rfl
    · exact .refl rfl
    · rw [examine]
      split
      · exact .refl rfl
      · exact ⟨_, Station.hosts_visited _ _ document, runStations_stations _ _ document _⟩

theorem revisits_analyzeFiles (analyzer : Analyzer) (options : AnalysisOptions)
    (documents : List Document) :
    analyzer.Revisits (analyzer.analyzeFiles options documents).1 := by
  induction documents generalizing analyzer with
  | nil => exact .refl rfl
  | cons document documents ih =>
      rw [analyzeFiles]
      exact (analyzer.revisits_analyzeFile options document).trans (ih _)

theorem revisits_perform (analyzer : Analyzer) (call : Call) :
    analyzer.Revisits (analyzer.perform call) := by
  cases call with
  | update changes =>
      apply Revisits.refl
      rw [perform]
      cases updated : analyzer.updateConfig changes with
      | error issues => rfl
      | ok after => exact (updateConfig_eq_ok_iff.mp updated).2
  | analyzeFile options document => exact analyzer.revisits_analyzeFile options document
  | analyzeFiles options documents => exact analyzer.revisits_analyzeFiles options documents

theorem revisits_session (analyzer : Analyzer) (calls : List Call) :
    analyzer.Revisits (analyzer.session calls) := by
  induction calls generalizing analyzer with
  | nil => exact .refl rfl
  | cons call calls ih => exact (analyzer.revisits_perform call).trans (ih _)

theorem Revisits.inUse {before after : Analyzer} (revisits : before.Revisits after)
    (inUse : before.InUse) : after.InUse := by
  obtain ⟨visit, revisits, stations⟩ := revisits
  intro station member
  rw [stations] at member
  obtain ⟨earlier, listed, rfl⟩ := List.mem_map.mp member
  obtain ⟨blocks, reached⟩ := inUse earlier listed
  exact ⟨blocks, reached.trans ((revisits earlier).runs blocks)⟩

/-- A call leaves every workspace with the entries that it had. -/
theorem Revisits.openCounts_eq {before after : Analyzer} (revisits : before.Revisits after)
    (inUse : before.InUse) : after.openCounts = before.openCounts := by
  obtain ⟨visit, revisits, stations⟩ := revisits
  rw [openCounts, openCounts, stations, List.map_map]
  refine List.map_congr_left fun station member => ?_
  obtain ⟨blocks, reached⟩ := inUse station member
  simp only [Function.comp_apply, (revisits station).detector, (revisits station).size_eq reached,
    List.length_nil, Nat.add_zero]

end Analyzer
end Hazard
