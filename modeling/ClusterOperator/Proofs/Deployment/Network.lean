import ClusterOperator.Proofs.Deployment.Requests
import ClusterOperator.Proofs.Net.Cidr

/-!
# How the network of a cluster is spelled

The parameters of the main deployment are made of the network that the specification of a cluster
spells, with the bits below the mask cleared, and of nothing else of the spelling.  The blocks in
them are written as texts that are read as these very blocks.  So another spelling of the same
network makes the same deployment, and no look at it goes another way (`spelling_is_immaterial`).
-/

namespace ClusterOperator

open Net (Block Carving CarvingSizes)

namespace MainDeployment

variable {sizes : CarvingSizes} {cluster : Cluster} {p : Parameters}

/-- The parameters of a cluster are those of its carved network. -/
theorem parameters_eq_ok_iff :
    parameters sizes cluster = .ok p ↔ ∃ network carving,
      Net.parseNetwork cluster.name cluster.spec.networkCidr = .ok network ∧
        Carving.compute network sizes = .ok carving ∧ p = parametersOf cluster carving := by
  simp only [parameters, Net.bind_eq_ok_iff, pure, Except.pure, Except.ok.injEq,
    eq_comm (a := p), exists_and_left]

/-- No name is computed twice. -/
theorem nodup_names (h : parameters sizes cluster = .ok p) : p.names.Nodup := by
  obtain ⟨network, carving, -, -, rfl⟩ := parameters_eq_ok_iff.mp h
  change ["clusterID", "location", "virtualNetworkCidr", "calicoSubnetCidr", "masterSubnetCidr",
    "workerSubnetCidr", "vpnSubnetCidr", "vpnGatewayEnabled"].Nodup
  decide

/-- A parameter is the text of a block, which is read as this block, by itself and as a network. -/
def Emits (p : Parameters) (name : String) (b : Block) : Prop :=
  ∃ text, p.find? name = some (.text text) ∧ Net.readNetwork? text = some b ∧
    ∀ cluster, Net.parseNetwork cluster text = .ok b

theorem emits_of_aligned {name : String} {b : Block} (h : p.find? name = some (.text b.toText))
    (aligned : b.Aligned) : Emits p name b :=
  ⟨_, h, Net.readNetwork?_toText b, Net.parseNetwork_toText aligned⟩

/-- **The blocks in the parameters are read as those that were carved.** -/
theorem emits_of_parameters (h : parameters sizes cluster = .ok p) :
    ∃ network carving, Net.parseNetwork cluster.name cluster.spec.networkCidr = .ok network ∧
      Carving.compute network sizes = .ok carving ∧
      Emits p "virtualNetworkCidr" carving.parent ∧ Emits p "calicoSubnetCidr" carving.calico ∧
      Emits p "masterSubnetCidr" carving.master ∧ Emits p "workerSubnetCidr" carving.worker ∧
      Emits p "vpnSubnetCidr" carving.vpn := by
  obtain ⟨network, carving, hnetwork, hcarving, rfl⟩ := parameters_eq_ok_iff.mp h
  have layout := Net.layout_of_compute hcarving
  have hparent : carving.parent.Aligned := by
    obtain ⟨-, hparent, -⟩ := Net.compute_eq_ok_iff.mp hcarving
    exact hparent ▸ network.aligned_truncated
  have hblock : ∀ b ∈ carving.blocks, b.Aligned := layout.aligned
  exact ⟨network, carving, hnetwork, hcarving, emits_of_aligned rfl hparent,
    emits_of_aligned rfl (hblock _ (by simp [Carving.blocks])),
    emits_of_aligned rfl (hblock _ (by simp [Carving.blocks])),
    emits_of_aligned rfl (hblock _ (by simp [Carving.blocks])),
    emits_of_aligned rfl (hblock _ (by simp [Carving.blocks]))⟩

end MainDeployment

/-! ## Other spellings -/

/-- The cluster with its network spelled by another text. -/
def Cluster.respelled (cluster : Cluster) (cidr : String) : Cluster :=
  { cluster with spec := { cluster.spec with networkCidr := cidr } }

/-- The texts spell the same network, up to the bits below the mask. -/
def Respelling (s t : String) : Prop :=
  ∃ b c, Net.readNetwork? s = some b ∧ Net.readNetwork? t = some c ∧
    b.base = c.base ∧ b.maskLength = c.maskLength

namespace Respelling

variable {s t : String} {cluster : Cluster} {sizes : CarvingSizes}

theorem parseNetwork_eq (h : Respelling s t) (name : String) :
    Net.parseNetwork name s = Net.parseNetwork name t := by
  obtain ⟨b, c, hs, ht, hbase, hmask⟩ := h
  have hsame : b.truncated = c.truncated := by
    rw [Block.truncated, Block.truncated, Block.mk.injEq]
    exact ⟨hbase, hmask⟩
  rw [Net.parseNetwork, Net.parseNetwork, hs, ht]
  exact congrArg Except.ok hsame

/-- **The parameters do not depend on the spelling**, nor does the failure to compute them. -/
theorem parameters_eq (h : Respelling s t) :
    MainDeployment.parameters sizes (cluster.respelled s) =
      MainDeployment.parameters sizes (cluster.respelled t) := by
  rw [MainDeployment.parameters, MainDeployment.parameters]
  simp only [Cluster.respelled, h.parseNetwork_eq cluster.name]
  rfl

end Respelling

namespace DeploymentOrchestrator

variable {o : DeploymentOrchestrator} {s t : String} {cluster : Cluster} {sizes : CarvingSizes}

theorem deploymentName_respelled (main : o.definition = MainDeployment.definition sizes) :
    o.deploymentName (cluster.respelled s) = o.deploymentName (cluster.respelled t) := by
  rw [deploymentName, deploymentName, main]
  rfl

theorem assemble_respelled (main : o.definition = MainDeployment.definition sizes)
    (template : Json) :
    o.assemble (cluster.respelled s) template = o.assemble (cluster.respelled t) template := by
  funext parameters
  rw [assemble, assemble, deploymentName_respelled (t := t) main]
  rfl

/-- What is wanted does not depend on the spelling. -/
theorem map_assemble_respelled (h : Respelling s t)
    (main : o.definition = MainDeployment.definition sizes) (template : Json) :
    (o.definition.parameters (cluster.respelled s)).map
        (o.assemble (cluster.respelled s) template) =
      (o.definition.parameters (cluster.respelled t)).map
        (o.assemble (cluster.respelled t) template) := by
  have hparameters : o.definition.parameters (cluster.respelled s) =
      o.definition.parameters (cluster.respelled t) := by
    rw [main]
    exact h.parameters_eq
  rw [hparameters, assemble_respelled (s := s) (t := t) main]

theorem desired_respelled (h : Respelling s t)
    (main : o.definition = MainDeployment.definition sizes) :
    o.desired (cluster.respelled s) = o.desired (cluster.respelled t) := by
  refine congrArg (Program.bind _) (funext fun reply => ?_)
  cases reply with
  | error e => rfl
  | ok template => exact congrArg Program.done (map_assemble_respelled h main template)

theorem submit_respelled : o.submit (cluster.respelled s) = o.submit (cluster.respelled t) := by
  funext d initial
  refine congrArg (Program.bind _) (funext fun reply => ?_)
  rcases reply with e | ⟨⟩ <;> rfl

/-- **A look does not depend on the spelling.** -/
theorem ensureCreated_respelled (h : Respelling s t)
    (main : o.definition = MainDeployment.definition sizes) :
    o.ensureCreated (cluster.respelled s) = o.ensureCreated (cluster.respelled t) := by
  have hname : o.deploymentName (cluster.respelled s) = o.deploymentName (cluster.respelled t) :=
    deploymentName_respelled main
  have hsubmit : o.submit (cluster.respelled s) = o.submit (cluster.respelled t) :=
    submit_respelled
  have hrecorded : o.recorded (cluster.respelled s) = o.recorded (cluster.respelled t) := by
    unfold recorded
    rw [hname]
    rfl
  have hcreate : o.create (cluster.respelled s) = o.create (cluster.respelled t) := by
    unfold create
    rw [desired_respelled h main, hsubmit, hname]
  have hreview : o.review (cluster.respelled s) = o.review (cluster.respelled t) := by
    unfold review settle resubmit
    rw [desired_respelled h main, hsubmit, hrecorded, hname]
  have hawait : o.await (cluster.respelled s) = o.await (cluster.respelled t) := by
    unfold await
    rw [hname]
  have hlookup : Gateway.call (.lookUp (cluster.respelled s).resourceGroup
      (o.deploymentName (cluster.respelled s))) = Gateway.call (.lookUp
        (cluster.respelled t).resourceGroup (o.deploymentName (cluster.respelled t))) := by
    rw [hname]
    rfl
  unfold ensureCreated
  rw [hlookup]
  refine congrArg (Step.bind _) (funext fun reply => ?_)
  cases reply with
  | error e => dsimp only; rw [hcreate]
  | ok observed => dsimp only; rw [hreview, hawait]

/-- **Another spelling is never submitted again**: what was recorded for the one is what is wanted
for the other. -/
theorem submissions_respelled (h : Respelling s t)
    (main : o.definition = MainDeployment.definition sizes) {template : Json} {sent : Deployment}
    (hsent : (o.definition.parameters (cluster.respelled s)).map
      (o.assemble (cluster.respelled s) template) = .ok sent)
    (v : Review o (cluster.respelled t)) (hread : v.template = template)
    (hrecorded : v.recorded = (some sent.templateChecksum, some sent.parametersChecksum))
    {ctx after : PassContext} {rest : List (Exchange gateway)}
    {r : Except Failure DeploymentOutcome}
    (htranscript :
      (o.ensureCreated (cluster.respelled t)).Transcript ctx (v.reads ++ rest) r after) :
    submissions (v.reads ++ rest) = [] := by
  have hwanted : sent = v.wanted := by
    rw [map_assemble_respelled h main, ← hread, v.made] at hsent
    exact (Except.ok.inj hsent).symm
  have unchanged : v.Unchanged := (v.unchanged_iff hrecorded).mpr (congrArg _ hwanted)
  obtain rfl := settle_asks_nothing ((v.transcript_of_unchanged unchanged).mp htranscript)
  exact submissions_of_quiet (by simp [Review.reads])

end DeploymentOrchestrator

/-- **How a network is spelled makes no difference.**  A network is read from its spellings with
blanks around them; what a specification is parsed to is parsed from its own text again; the
blocks in the parameters are read as those that were carved; and clusters that differ only in the
spelling of one network have the same parameters, and the same is done for them: after the one
was submitted, the other is not submitted again. -/
theorem spelling_is_immaterial :
    (∀ (t : String) (b : Block), Net.readNetwork? t = some b ↔
      ∃ front s behind, t.toList = front ++ (s ++ behind) ∧
        (∀ c ∈ front, Text.isBlank c = true) ∧ (∀ c ∈ behind, Text.isBlank c = true) ∧
        Net.Spelling b s) ∧
    (∀ (name cidr : String) (network : Block), Net.parseNetwork name cidr = .ok network →
      network.Aligned ∧ ∀ other, Net.parseNetwork other network.toText = .ok network) ∧
    (∀ (sizes : CarvingSizes) (cluster : Cluster) (p : Parameters),
      MainDeployment.parameters sizes cluster = .ok p → ∃ network carving,
        Net.parseNetwork cluster.name cluster.spec.networkCidr = .ok network ∧
        Carving.compute network sizes = .ok carving ∧
        MainDeployment.Emits p "virtualNetworkCidr" carving.parent ∧
        MainDeployment.Emits p "calicoSubnetCidr" carving.calico ∧
        MainDeployment.Emits p "masterSubnetCidr" carving.master ∧
        MainDeployment.Emits p "workerSubnetCidr" carving.worker ∧
        MainDeployment.Emits p "vpnSubnetCidr" carving.vpn) ∧
    ∀ (cluster : Cluster) (s t : String), Respelling s t → ∀ sizes : CarvingSizes,
      MainDeployment.parameters sizes (cluster.respelled s) =
        MainDeployment.parameters sizes (cluster.respelled t) ∧
      ∀ o : DeploymentOrchestrator, o.definition = MainDeployment.definition sizes →
        o.ensureCreated (cluster.respelled s) = o.ensureCreated (cluster.respelled t) ∧
        ∀ (template : Json) (sent : Deployment),
          (o.definition.parameters (cluster.respelled s)).map
            (o.assemble (cluster.respelled s) template) = .ok sent →
          ∀ v : DeploymentOrchestrator.Review o (cluster.respelled t), v.template = template →
            v.recorded = (some sent.templateChecksum, some sent.parametersChecksum) →
            ∀ (ctx after : PassContext) (rest : List (Exchange gateway))
              (r : Except Failure DeploymentOutcome),
              (o.ensureCreated (cluster.respelled t)).Transcript ctx (v.reads ++ rest) r after →
              DeploymentOrchestrator.submissions (v.reads ++ rest) = [] := by
  refine ⟨fun t b => Net.readNetwork?_eq_some_iff, fun name cidr network h => ?_,
    fun sizes cluster p h => MainDeployment.emits_of_parameters h, fun cluster s t h sizes => ?_⟩
  · have aligned := Net.aligned_of_parseNetwork h
    exact ⟨aligned, Net.parseNetwork_toText aligned⟩
  · exact ⟨h.parameters_eq, fun o main => ⟨DeploymentOrchestrator.ensureCreated_respelled h main,
      fun template sent hsent v hread hrecorded _ _ _ _ htranscript =>
        DeploymentOrchestrator.submissions_respelled h main hsent v hread hrecorded htranscript⟩⟩

/-- A network with bits below the mask, leading zeros and blanks is the one that the cluster of
the other spelling has, whose parameters can be computed. -/
theorem spelling_is_immaterial_of_padding :
    ∃ p, MainDeployment.parameters {}
        (DeploymentOrchestrator.production.respelled " 010.000.3.7/16\t") = .ok p ∧
      MainDeployment.parameters {}
        (DeploymentOrchestrator.production.respelled "10.0.0.0/16") = .ok p := by
  obtain ⟨p, hp⟩ := DeploymentOrchestrator.exists_parameters_production
  have hspelled : Respelling " 010.000.3.7/16\t" "10.0.0.0/16" :=
    ⟨⟨0x0A000307, 16, by decide, by decide⟩, ⟨0x0A000000, 16, by decide, by decide⟩,
      by decide +kernel, by decide +kernel, by decide +kernel, rfl⟩
  obtain ⟨-, -, -, h⟩ := spelling_is_immaterial
  obtain ⟨hequal, -⟩ := h DeploymentOrchestrator.production _ _ hspelled {}
  exact ⟨p, hequal.trans hp, hp⟩

end ClusterOperator
