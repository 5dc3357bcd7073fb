import PageHarvest.Probe.Record
import PageHarvest.Proofs.Advice.Classes
import PageHarvest.Proofs.Advice.Fields
import PageHarvest.Proofs.Advice.Payload
import PageHarvest.Proofs.Advice.Unfenced
import PageHarvest.Proofs.Attrs.Fault
import PageHarvest.Proofs.Descriptor.Composition
import PageHarvest.Proofs.FieldName.Sanitized
import PageHarvest.Proofs.FieldName.Verdict
import PageHarvest.Proofs.Html.Wording
import PageHarvest.Proofs.Job.Defaults
import PageHarvest.Proofs.Links.Filter
import PageHarvest.Proofs.Links.Order
import PageHarvest.Proofs.Probe.Readiness
import PageHarvest.Proofs.Probe.Unreadable
import PageHarvest.Proofs.Script.Proxies
import PageHarvest.Proofs.Script.Resolved
import PageHarvest.Proofs.Script.Visited
import PageHarvest.Samples
