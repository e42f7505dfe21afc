import StaticDispatch.Main
import StaticDispatch.Proofs.Declaration.Rejection
import StaticDispatch.Proofs.Declaration.RoundTrip
import StaticDispatch.Proofs.Devirtualization
import StaticDispatch.Proofs.RegistrationOrder
import StaticDispatch.Scenario
import StaticDispatch.Wrapper.Compile
import StaticDispatch.Wrapper.Run
import StaticDispatch.Proofs.TypeTable.Rooted
import StaticDispatch.Proofs.TypeTable.Literal
import StaticDispatch.Proofs.Candidate.LinearExtension
import StaticDispatch.Proofs.TypeTable.Blanking
import StaticDispatch.Proofs.Assembly
import StaticDispatch.Proofs.Reordering
import StaticDispatch.Proofs.SettledOrder
import StaticDispatch.Proofs.Declaration.LiteralFaults
import StaticDispatch.Proofs.ParamList
import StaticDispatch.Proofs.Wrapper.Namespace
import StaticDispatch.Proofs.Wrapper.Source
import StaticDispatch.Proofs.Wrapper.Construction
import StaticDispatch.Proofs.Wrapper.Refinement
import StaticDispatch.Proofs.TypeTable.Exactness
import StaticDispatch.Proofs.Specializer.Classification
import StaticDispatch.Proofs.Agreement
import StaticDispatch.Proofs.Growth
import StaticDispatch.Proofs.DeclaredOrder
import StaticDispatch.Proofs.ParamList.Forwarding
import StaticDispatch.Proofs.Declaration.LentNames
import StaticDispatch.Proofs.SiteIndependence
import StaticDispatch.Proofs.Declaration.SpelledParams
import StaticDispatch.Proofs.Declaration.Expectations
import StaticDispatch.Proofs.DispatchOrder
import StaticDispatch.Proofs.Totality
import StaticDispatch.Proofs.Config.Format
import StaticDispatch.Proofs.Declaration.Labels
import StaticDispatch.Proofs.CommandLine.Enablement
