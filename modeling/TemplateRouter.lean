import TemplateRouter.Main
import TemplateRouter.Proofs.CommandLine.Grammar
import TemplateRouter.Proofs.CommandLine.Output
import TemplateRouter.Proofs.Loading.Hidden
import TemplateRouter.Proofs.Loading.Precedence
import TemplateRouter.Proofs.Log.Shown
import TemplateRouter.Proofs.Settings
import TemplateRouter.Proofs.Table.Change
import TemplateRouter.Proofs.Table.Expansion
import TemplateRouter.Proofs.Table.Limit
import TemplateRouter.Proofs.Template.Encoding
