import ChannelMux.Store.Records

/-!
Contract: the store of everything that exists.

Owns the tables, the clusters of every network, and changes of single records.

Does not own what changes go together: every operation says that for itself.
-/

namespace ChannelMux

/-- Everything that exists. -/
structure Store where
  pipelines : Table .pipeline Pipeline := {}
  stages : Table .stage Stage := {}
  agents : Table .agent Agent := {}
  nodes : Table .node Node := {}
  groups : Table .stack GroupStack := {}
  forks : Table .fork Fork := {}
  /-- The clusters of every network that have members. -/
  networks : Registry (Registry Cluster) := .empty

namespace Store

instance : Inhabited Store := ⟨{}⟩

/-- Changes a pipeline. -/
def modifyPipeline (store : Store) (ref : Ref .pipeline) (change : Pipeline → Pipeline) : Store :=
  { store with pipelines := store.pipelines.modify ref change }

def modifyStage (store : Store) (ref : Ref .stage) (change : Stage → Stage) : Store :=
  { store with stages := store.stages.modify ref change }

def modifyAgent (store : Store) (ref : Ref .agent) (change : Agent → Agent) : Store :=
  { store with agents := store.agents.modify ref change }

def modifyNode (store : Store) (ref : Ref .node) (change : Node → Node) : Store :=
  { store with nodes := store.nodes.modify ref change }

def modifyStack (store : Store) (ref : Ref .stack) (change : GroupStack → GroupStack) : Store :=
  { store with groups := store.groups.modify ref change }

def modifyFork (store : Store) (ref : Ref .fork) (change : Fork → Fork) : Store :=
  { store with forks := store.forks.modify ref change }

/-- Adds a pipeline. -/
def addPipeline (store : Store) (pipeline : Pipeline) : Ref .pipeline × Store :=
  (store.pipelines.next, { store with pipelines := store.pipelines.add pipeline })

def addStage (store : Store) (stage : Stage) : Ref .stage × Store :=
  (store.stages.next, { store with stages := store.stages.add stage })

def addAgent (store : Store) (agent : Agent) : Ref .agent × Store :=
  (store.agents.next, { store with agents := store.agents.add agent })

/-- Knows a pipeline by a name. -/
def namePipeline (store : Store) (ref : Ref .pipeline) (name : String) : Store :=
  { store with pipelines := store.pipelines.name ref name }

def nameStage (store : Store) (ref : Ref .stage) (name : String) : Store :=
  { store with stages := store.stages.name ref name }

def nameAgent (store : Store) (ref : Ref .agent) (name : String) : Store :=
  { store with agents := store.agents.name ref name }

def nameNode (store : Store) (ref : Ref .node) (name : String) : Store :=
  { store with nodes := store.nodes.name ref name }

def nameStack (store : Store) (ref : Ref .stack) (name : String) : Store :=
  { store with groups := store.groups.name ref name }

/-- Forgets the name of a pipeline. -/
def dropPipeline (store : Store) (name : String) : Store :=
  { store with pipelines := store.pipelines.forget name }

def dropStage (store : Store) (name : String) : Store :=
  { store with stages := store.stages.forget name }

def dropNode (store : Store) (name : String) : Store :=
  { store with nodes := store.nodes.forget name }

def stagesOf (store : Store) (pipeline : Ref .pipeline) : List (Ref .stage) :=
  (store.pipelines.get pipeline).stages

def stageNames (store : Store) (pipeline : Ref .pipeline) : List String :=
  (store.stagesOf pipeline).map (fun stage => (store.stages.get stage).name)

def demultiplexer? (store : Store) (stage : Ref .stage) : Option Demultiplexer :=
  (store.stages.get stage).demultiplexer?

/-- The cluster of a network under a name, empty if it has no members. -/
def cluster (store : Store) (network name : String) : Cluster :=
  (((store.networks.get? network).getD .empty).get? name).getD {}

/-- Keeps a cluster; one without members is let go of, and with it the number of its
latest view. -/
def putCluster (store : Store) (network name : String) (cluster : Cluster) : Store :=
  { store with networks := store.networks.alter network fun clusters? =>
      let clusters := clusters?.getD .empty
      if cluster.members.isEmpty then clusters.erase name else clusters.put name cluster }

/-- The addresses of the members of a cluster, in the order in which they joined. -/
def clusterMembers (store : Store) (network name : String) : List Address :=
  (store.cluster network name).members.map Member.address

/-- The name of the member of any cluster of a network that has an address. -/
def memberName? (store : Store) (network : String) (address : Address) : Option String :=
  let clusters := ((store.networks.get? network).getD .empty).values
  ((clusters.flatMap Cluster.members).find? (fun member => member.address == address)).map
    Member.name

end Store

end ChannelMux
