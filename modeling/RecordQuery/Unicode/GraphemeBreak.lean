/-
# Where characters join

What a reader takes for one character may be written as several: a letter with
its marks, the parts of a syllable, a pair of regional indicators.  The grapheme
cluster break of a character says how it joins with its neighbours.
-/

import RecordQuery.Unicode.Ranges

namespace RecordQuery
namespace Unicode
namespace GraphemeBreak

/-- The names of the grapheme cluster breaks, lower case and without separators, with their
codes. -/
def names : List (String × String) := [
  ("control", "CN"), ("cn", "CN"), ("cr", "CR"), ("extend", "EX"), ("ex", "EX"), ("l", "L"),
  ("lf", "LF"), ("lv", "LV"), ("lvt", "LVT"), ("prepend", "PP"), ("pp", "PP"),
  ("regionalindicator", "RI"), ("ri", "RI"), ("spacingmark", "SM"), ("sm", "SM"), ("t", "T"),
  ("v", "V"), ("zwj", "ZWJ")]

/-- Where each of the grapheme cluster breaks starts; `-` where there is none. -/
def table : String := "
  0=CN A=LF B=CN D=CR E=CN 20=- 7F=CN A0=- AD=CN AE=- 300=EX 370=- 483=EX 48A=- 591=EX 5BE=-
  5BF=EX 5C0=- 5C1=EX 5C3=- 5C4=EX 5C6=- 5C7=EX 5C8=- 600=PP 606=- 610=EX 61B=- 61C=CN 61D=-
  64B=EX 660=- 670=EX 671=- 6D6=EX 6DD=PP 6DE=- 6DF=EX 6E5=- 6E7=EX 6E9=- 6EA=EX 6EE=- 70F=PP
  710=- 711=EX 712=- 730=EX 74B=- 7A6=EX 7B1=- 7EB=EX 7F4=- 7FD=EX 7FE=- 816=EX 81A=- 81B=EX 824=-
  825=EX 828=- 829=EX 82E=- 859=EX 85C=- 890=PP 892=- 897=EX 8A0=- 8CA=EX 8E2=PP 8E3=EX 903=SM
  904=- 93A=EX 93B=SM 93C=EX 93D=- 93E=SM 941=EX 949=SM 94D=EX 94E=SM 950=- 951=EX 958=- 962=EX
  964=- 981=EX 982=SM 984=- 9BC=EX 9BD=- 9BE=EX 9BF=SM 9C1=EX 9C5=- 9C7=SM 9C9=- 9CB=SM 9CD=EX
  9CE=- 9D7=EX 9D8=- 9E2=EX 9E4=- 9FE=EX 9FF=- A01=EX A03=SM A04=- A3C=EX A3D=- A3E=SM A41=EX
  A43=- A47=EX A49=- A4B=EX A4E=- A51=EX A52=- A70=EX A72=- A75=EX A76=- A81=EX A83=SM A84=-
  ABC=EX ABD=- ABE=SM AC1=EX AC6=- AC7=EX AC9=SM ACA=- ACB=SM ACD=EX ACE=- AE2=EX AE4=- AFA=EX
  B00=- B01=EX B02=SM B04=- B3C=EX B3D=- B3E=EX B40=SM B41=EX B45=- B47=SM B49=- B4B=SM B4D=EX
  B4E=- B55=EX B58=- B62=EX B64=- B82=EX B83=- BBE=EX BBF=SM BC0=EX BC1=SM BC3=- BC6=SM BC9=-
  BCA=SM BCD=EX BCE=- BD7=EX BD8=- C00=EX C01=SM C04=EX C05=- C3C=EX C3D=- C3E=EX C41=SM C45=-
  C46=EX C49=- C4A=EX C4E=- C55=EX C57=- C62=EX C64=- C81=EX C82=SM C84=- CBC=EX CBD=- CBE=SM
  CBF=EX CC1=SM CC2=EX CC3=SM CC5=- CC6=EX CC9=- CCA=EX CCE=- CD5=EX CD7=- CE2=EX CE4=- CF3=SM
  CF4=- D00=EX D02=SM D04=- D3B=EX D3D=- D3E=EX D3F=SM D41=EX D45=- D46=SM D49=- D4A=SM D4D=EX
  D4E=PP D4F=- D57=EX D58=- D62=EX D64=- D81=EX D82=SM D84=- DCA=EX DCB=- DCF=EX DD0=SM DD2=EX
  DD5=- DD6=EX DD7=- DD8=SM DDF=EX DE0=- DF2=SM DF4=- E31=EX E32=- E33=SM E34=EX E3B=- E47=EX
  E4F=- EB1=EX EB2=- EB3=SM EB4=EX EBD=- EC8=EX ECF=- F18=EX F1A=- F35=EX F36=- F37=EX F38=-
  F39=EX F3A=- F3E=SM F40=- F71=EX F7F=SM F80=EX F85=- F86=EX F88=- F8D=EX F98=- F99=EX FBD=-
  FC6=EX FC7=- 102D=EX 1031=SM 1032=EX 1038=- 1039=EX 103B=SM 103D=EX 103F=- 1056=SM 1058=EX
  105A=- 105E=EX 1061=- 1071=EX 1075=- 1082=EX 1083=- 1084=SM 1085=EX 1087=- 108D=EX 108E=-
  109D=EX 109E=- 1100=L 1160=V 11A8=T 1200=- 135D=EX 1360=- 1712=EX 1716=- 1732=EX 1735=- 1752=EX
  1754=- 1772=EX 1774=- 17B4=EX 17B6=SM 17B7=EX 17BE=SM 17C6=EX 17C7=SM 17C9=EX 17D4=- 17DD=EX
  17DE=- 180B=EX 180E=CN 180F=EX 1810=- 1885=EX 1887=- 18A9=EX 18AA=- 1920=EX 1923=SM 1927=EX
  1929=SM 192C=- 1930=SM 1932=EX 1933=SM 1939=EX 193C=- 1A17=EX 1A19=SM 1A1B=EX 1A1C=- 1A55=SM
  1A56=EX 1A57=SM 1A58=EX 1A5F=- 1A60=EX 1A61=- 1A62=EX 1A63=- 1A65=EX 1A6D=SM 1A73=EX 1A7D=-
  1A7F=EX 1A80=- 1AB0=EX 1ACF=- 1B00=EX 1B04=SM 1B05=- 1B34=EX 1B3E=SM 1B42=EX 1B45=- 1B6B=EX
  1B74=- 1B80=EX 1B82=SM 1B83=- 1BA1=SM 1BA2=EX 1BA6=SM 1BA8=EX 1BAE=- 1BE6=EX 1BE7=SM 1BE8=EX
  1BEA=SM 1BED=EX 1BEE=SM 1BEF=EX 1BF4=- 1C24=SM 1C2C=EX 1C34=SM 1C36=EX 1C38=- 1CD0=EX 1CD3=-
  1CD4=EX 1CE1=SM 1CE2=EX 1CE9=- 1CED=EX 1CEE=- 1CF4=EX 1CF5=- 1CF7=SM 1CF8=EX 1CFA=- 1DC0=EX
  1E00=- 200B=CN 200C=EX 200D=ZWJ 200E=CN 2010=- 2028=CN 202F=- 2060=CN 2070=- 20D0=EX 20F1=-
  2CEF=EX 2CF2=- 2D7F=EX 2D80=- 2DE0=EX 2E00=- 302A=EX 3030=- 3099=EX 309B=- A66F=EX A673=-
  A674=EX A67E=- A69E=EX A6A0=- A6F0=EX A6F2=- A802=EX A803=- A806=EX A807=- A80B=EX A80C=-
  A823=SM A825=EX A827=SM A828=- A82C=EX A82D=- A880=SM A882=- A8B4=SM A8C4=EX A8C6=- A8E0=EX
  A8F2=- A8FF=EX A900=- A926=EX A92E=- A947=EX A952=SM A953=EX A954=- A960=L A97D=- A980=EX
  A983=SM A984=- A9B3=EX A9B4=SM A9B6=EX A9BA=SM A9BC=EX A9BE=SM A9C0=EX A9C1=- A9E5=EX A9E6=-
  AA29=EX AA2F=SM AA31=EX AA33=SM AA35=EX AA37=- AA43=EX AA44=- AA4C=EX AA4D=SM AA4E=- AA7C=EX
  AA7D=- AAB0=EX AAB1=- AAB2=EX AAB5=- AAB7=EX AAB9=- AABE=EX AAC0=- AAC1=EX AAC2=- AAEB=SM
  AAEC=EX AAEE=SM AAF0=- AAF5=SM AAF6=EX AAF7=- ABE3=SM ABE5=EX ABE6=SM ABE8=EX ABE9=SM ABEB=-
  ABEC=SM ABED=EX ABEE=- AC00=LV AC01=LVT AC1C=LV AC1D=LVT AC38=LV AC39=LVT AC54=LV AC55=LVT
  AC70=LV AC71=LVT AC8C=LV AC8D=LVT ACA8=LV ACA9=LVT ACC4=LV ACC5=LVT ACE0=LV ACE1=LVT ACFC=LV
  ACFD=LVT AD18=LV AD19=LVT AD34=LV AD35=LVT AD50=LV AD51=LVT AD6C=LV AD6D=LVT AD88=LV AD89=LVT
  ADA4=LV ADA5=LVT ADC0=LV ADC1=LVT ADDC=LV ADDD=LVT ADF8=LV ADF9=LVT AE14=LV AE15=LVT AE30=LV
  AE31=LVT AE4C=LV AE4D=LVT AE68=LV AE69=LVT AE84=LV AE85=LVT AEA0=LV AEA1=LVT AEBC=LV AEBD=LVT
  AED8=LV AED9=LVT AEF4=LV AEF5=LVT AF10=LV AF11=LVT AF2C=LV AF2D=LVT AF48=LV AF49=LVT AF64=LV
  AF65=LVT AF80=LV AF81=LVT AF9C=LV AF9D=LVT AFB8=LV AFB9=LVT AFD4=LV AFD5=LVT AFF0=LV AFF1=LVT
  B00C=LV B00D=LVT B028=LV B029=LVT B044=LV B045=LVT B060=LV B061=LVT B07C=LV B07D=LVT B098=LV
  B099=LVT B0B4=LV B0B5=LVT B0D0=LV B0D1=LVT B0EC=LV B0ED=LVT B108=LV B109=LVT B124=LV B125=LVT
  B140=LV B141=LVT B15C=LV B15D=LVT B178=LV B179=LVT B194=LV B195=LVT B1B0=LV B1B1=LVT B1CC=LV
  B1CD=LVT B1E8=LV B1E9=LVT B204=LV B205=LVT B220=LV B221=LVT B23C=LV B23D=LVT B258=LV B259=LVT
  B274=LV B275=LVT B290=LV B291=LVT B2AC=LV B2AD=LVT B2C8=LV B2C9=LVT B2E4=LV B2E5=LVT B300=LV
  B301=LVT B31C=LV B31D=LVT B338=LV B339=LVT B354=LV B355=LVT B370=LV B371=LVT B38C=LV B38D=LVT
  B3A8=LV B3A9=LVT B3C4=LV B3C5=LVT B3E0=LV B3E1=LVT B3FC=LV B3FD=LVT B418=LV B419=LVT B434=LV
  B435=LVT B450=LV B451=LVT B46C=LV B46D=LVT B488=LV B489=LVT B4A4=LV B4A5=LVT B4C0=LV B4C1=LVT
  B4DC=LV B4DD=LVT B4F8=LV B4F9=LVT B514=LV B515=LVT B530=LV B531=LVT B54C=LV B54D=LVT B568=LV
  B569=LVT B584=LV B585=LVT B5A0=LV B5A1=LVT B5BC=LV B5BD=LVT B5D8=LV B5D9=LVT B5F4=LV B5F5=LVT
  B610=LV B611=LVT B62C=LV B62D=LVT B648=LV B649=LVT B664=LV B665=LVT B680=LV B681=LVT B69C=LV
  B69D=LVT B6B8=LV B6B9=LVT B6D4=LV B6D5=LVT B6F0=LV B6F1=LVT B70C=LV B70D=LVT B728=LV B729=LVT
  B744=LV B745=LVT B760=LV B761=LVT B77C=LV B77D=LVT B798=LV B799=LVT B7B4=LV B7B5=LVT B7D0=LV
  B7D1=LVT B7EC=LV B7ED=LVT B808=LV B809=LVT B824=LV B825=LVT B840=LV B841=LVT B85C=LV B85D=LVT
  B878=LV B879=LVT B894=LV B895=LVT B8B0=LV B8B1=LVT B8CC=LV B8CD=LVT B8E8=LV B8E9=LVT B904=LV
  B905=LVT B920=LV B921=LVT B93C=LV B93D=LVT B958=LV B959=LVT B974=LV B975=LVT B990=LV B991=LVT
  B9AC=LV B9AD=LVT B9C8=LV B9C9=LVT B9E4=LV B9E5=LVT BA00=LV BA01=LVT BA1C=LV BA1D=LVT BA38=LV
  BA39=LVT BA54=LV BA55=LVT BA70=LV BA71=LVT BA8C=LV BA8D=LVT BAA8=LV BAA9=LVT BAC4=LV BAC5=LVT
  BAE0=LV BAE1=LVT BAFC=LV BAFD=LVT BB18=LV BB19=LVT BB34=LV BB35=LVT BB50=LV BB51=LVT BB6C=LV
  BB6D=LVT BB88=LV BB89=LVT BBA4=LV BBA5=LVT BBC0=LV BBC1=LVT BBDC=LV BBDD=LVT BBF8=LV BBF9=LVT
  BC14=LV BC15=LVT BC30=LV BC31=LVT BC4C=LV BC4D=LVT BC68=LV BC69=LVT BC84=LV BC85=LVT BCA0=LV
  BCA1=LVT BCBC=LV BCBD=LVT BCD8=LV BCD9=LVT BCF4=LV BCF5=LVT BD10=LV BD11=LVT BD2C=LV BD2D=LVT
  BD48=LV BD49=LVT BD64=LV BD65=LVT BD80=LV BD81=LVT BD9C=LV BD9D=LVT BDB8=LV BDB9=LVT BDD4=LV
  BDD5=LVT BDF0=LV BDF1=LVT BE0C=LV BE0D=LVT BE28=LV BE29=LVT BE44=LV BE45=LVT BE60=LV BE61=LVT
  BE7C=LV BE7D=LVT BE98=LV BE99=LVT BEB4=LV BEB5=LVT BED0=LV BED1=LVT BEEC=LV BEED=LVT BF08=LV
  BF09=LVT BF24=LV BF25=LVT BF40=LV BF41=LVT BF5C=LV BF5D=LVT BF78=LV BF79=LVT BF94=LV BF95=LVT
  BFB0=LV BFB1=LVT BFCC=LV BFCD=LVT BFE8=LV BFE9=LVT C004=LV C005=LVT C020=LV C021=LVT C03C=LV
  C03D=LVT C058=LV C059=LVT C074=LV C075=LVT C090=LV C091=LVT C0AC=LV C0AD=LVT C0C8=LV C0C9=LVT
  C0E4=LV C0E5=LVT C100=LV C101=LVT C11C=LV C11D=LVT C138=LV C139=LVT C154=LV C155=LVT C170=LV
  C171=LVT C18C=LV C18D=LVT C1A8=LV C1A9=LVT C1C4=LV C1C5=LVT C1E0=LV C1E1=LVT C1FC=LV C1FD=LVT
  C218=LV C219=LVT C234=LV C235=LVT C250=LV C251=LVT C26C=LV C26D=LVT C288=LV C289=LVT C2A4=LV
  C2A5=LVT C2C0=LV C2C1=LVT C2DC=LV C2DD=LVT C2F8=LV C2F9=LVT C314=LV C315=LVT C330=LV C331=LVT
  C34C=LV C34D=LVT C368=LV C369=LVT C384=LV C385=LVT C3A0=LV C3A1=LVT C3BC=LV C3BD=LVT C3D8=LV
  C3D9=LVT C3F4=LV C3F5=LVT C410=LV C411=LVT C42C=LV C42D=LVT C448=LV C449=LVT C464=LV C465=LVT
  C480=LV C481=LVT C49C=LV C49D=LVT C4B8=LV C4B9=LVT C4D4=LV C4D5=LVT C4F0=LV C4F1=LVT C50C=LV
  C50D=LVT C528=LV C529=LVT C544=LV C545=LVT C560=LV C561=LVT C57C=LV C57D=LVT C598=LV C599=LVT
  C5B4=LV C5B5=LVT C5D0=LV C5D1=LVT C5EC=LV C5ED=LVT C608=LV C609=LVT C624=LV C625=LVT C640=LV
  C641=LVT C65C=LV C65D=LVT C678=LV C679=LVT C694=LV C695=LVT C6B0=LV C6B1=LVT C6CC=LV C6CD=LVT
  C6E8=LV C6E9=LVT C704=LV C705=LVT C720=LV C721=LVT C73C=LV C73D=LVT C758=LV C759=LVT C774=LV
  C775=LVT C790=LV C791=LVT C7AC=LV C7AD=LVT C7C8=LV C7C9=LVT C7E4=LV C7E5=LVT C800=LV C801=LVT
  C81C=LV C81D=LVT C838=LV C839=LVT C854=LV C855=LVT C870=LV C871=LVT C88C=LV C88D=LVT C8A8=LV
  C8A9=LVT C8C4=LV C8C5=LVT C8E0=LV C8E1=LVT C8FC=LV C8FD=LVT C918=LV C919=LVT C934=LV C935=LVT
  C950=LV C951=LVT C96C=LV C96D=LVT C988=LV C989=LVT C9A4=LV C9A5=LVT C9C0=LV C9C1=LVT C9DC=LV
  C9DD=LVT C9F8=LV C9F9=LVT CA14=LV CA15=LVT CA30=LV CA31=LVT CA4C=LV CA4D=LVT CA68=LV CA69=LVT
  CA84=LV CA85=LVT CAA0=LV CAA1=LVT CABC=LV CABD=LVT CAD8=LV CAD9=LVT CAF4=LV CAF5=LVT CB10=LV
  CB11=LVT CB2C=LV CB2D=LVT CB48=LV CB49=LVT CB64=LV CB65=LVT CB80=LV CB81=LVT CB9C=LV CB9D=LVT
  CBB8=LV CBB9=LVT CBD4=LV CBD5=LVT CBF0=LV CBF1=LVT CC0C=LV CC0D=LVT CC28=LV CC29=LVT CC44=LV
  CC45=LVT CC60=LV CC61=LVT CC7C=LV CC7D=LVT CC98=LV CC99=LVT CCB4=LV CCB5=LVT CCD0=LV CCD1=LVT
  CCEC=LV CCED=LVT CD08=LV CD09=LVT CD24=LV CD25=LVT CD40=LV CD41=LVT CD5C=LV CD5D=LVT CD78=LV
  CD79=LVT CD94=LV CD95=LVT CDB0=LV CDB1=LVT CDCC=LV CDCD=LVT CDE8=LV CDE9=LVT CE04=LV CE05=LVT
  CE20=LV CE21=LVT CE3C=LV CE3D=LVT CE58=LV CE59=LVT CE74=LV CE75=LVT CE90=LV CE91=LVT CEAC=LV
  CEAD=LVT CEC8=LV CEC9=LVT CEE4=LV CEE5=LVT CF00=LV CF01=LVT CF1C=LV CF1D=LVT CF38=LV CF39=LVT
  CF54=LV CF55=LVT CF70=LV CF71=LVT CF8C=LV CF8D=LVT CFA8=LV CFA9=LVT CFC4=LV CFC5=LVT CFE0=LV
  CFE1=LVT CFFC=LV CFFD=LVT D018=LV D019=LVT D034=LV D035=LVT D050=LV D051=LVT D06C=LV D06D=LVT
  D088=LV D089=LVT D0A4=LV D0A5=LVT D0C0=LV D0C1=LVT D0DC=LV D0DD=LVT D0F8=LV D0F9=LVT D114=LV
  D115=LVT D130=LV D131=LVT D14C=LV D14D=LVT D168=LV D169=LVT D184=LV D185=LVT D1A0=LV D1A1=LVT
  D1BC=LV D1BD=LVT D1D8=LV D1D9=LVT D1F4=LV D1F5=LVT D210=LV D211=LVT D22C=LV D22D=LVT D248=LV
  D249=LVT D264=LV D265=LVT D280=LV D281=LVT D29C=LV D29D=LVT D2B8=LV D2B9=LVT D2D4=LV D2D5=LVT
  D2F0=LV D2F1=LVT D30C=LV D30D=LVT D328=LV D329=LVT D344=LV D345=LVT D360=LV D361=LVT D37C=LV
  D37D=LVT D398=LV D399=LVT D3B4=LV D3B5=LVT D3D0=LV D3D1=LVT D3EC=LV D3ED=LVT D408=LV D409=LVT
  D424=LV D425=LVT D440=LV D441=LVT D45C=LV D45D=LVT D478=LV D479=LVT D494=LV D495=LVT D4B0=LV
  D4B1=LVT D4CC=LV D4CD=LVT D4E8=LV D4E9=LVT D504=LV D505=LVT D520=LV D521=LVT D53C=LV D53D=LVT
  D558=LV D559=LVT D574=LV D575=LVT D590=LV D591=LVT D5AC=LV D5AD=LVT D5C8=LV D5C9=LVT D5E4=LV
  D5E5=LVT D600=LV D601=LVT D61C=LV D61D=LVT D638=LV D639=LVT D654=LV D655=LVT D670=LV D671=LVT
  D68C=LV D68D=LVT D6A8=LV D6A9=LVT D6C4=LV D6C5=LVT D6E0=LV D6E1=LVT D6FC=LV D6FD=LVT D718=LV
  D719=LVT D734=LV D735=LVT D750=LV D751=LVT D76C=LV D76D=LVT D788=LV D789=LVT D7A4=- D7B0=V
  D7C7=- D7CB=T D7FC=- FB1E=EX FB1F=- FE00=EX FE10=- FE20=EX FE30=- FEFF=CN FF00=- FF9E=EX FFA0=-
  FFF0=CN FFFC=- 101FD=EX 101FE=- 102E0=EX 102E1=- 10376=EX 1037B=- 10A01=EX 10A04=- 10A05=EX
  10A07=- 10A0C=EX 10A10=- 10A38=EX 10A3B=- 10A3F=EX 10A40=- 10AE5=EX 10AE7=- 10D24=EX 10D28=-
  10D69=EX 10D6E=- 10EAB=EX 10EAD=- 10EFC=EX 10F00=- 10F46=EX 10F51=- 10F82=EX 10F86=- 11000=SM
  11001=EX 11002=SM 11003=- 11038=EX 11047=- 11070=EX 11071=- 11073=EX 11075=- 1107F=EX 11082=SM
  11083=- 110B0=SM 110B3=EX 110B7=SM 110B9=EX 110BB=- 110BD=PP 110BE=- 110C2=EX 110C3=- 110CD=PP
  110CE=- 11100=EX 11103=- 11127=EX 1112C=SM 1112D=EX 11135=- 11145=SM 11147=- 11173=EX 11174=-
  11180=EX 11182=SM 11183=- 111B3=SM 111B6=EX 111BF=SM 111C0=EX 111C1=- 111C2=PP 111C4=- 111C9=EX
  111CD=- 111CE=SM 111CF=EX 111D0=- 1122C=SM 1122F=EX 11232=SM 11234=EX 11238=- 1123E=EX 1123F=-
  11241=EX 11242=- 112DF=EX 112E0=SM 112E3=EX 112EB=- 11300=EX 11302=SM 11304=- 1133B=EX 1133D=-
  1133E=EX 1133F=SM 11340=EX 11341=SM 11345=- 11347=SM 11349=- 1134B=SM 1134D=EX 1134E=- 11357=EX
  11358=- 11362=SM 11364=- 11366=EX 1136D=- 11370=EX 11375=- 113B8=EX 113B9=SM 113BB=EX 113C1=-
  113C2=EX 113C3=- 113C5=EX 113C6=- 113C7=EX 113CA=SM 113CB=- 113CC=SM 113CE=EX 113D1=PP 113D2=EX
  113D3=- 113E1=EX 113E3=- 11435=SM 11438=EX 11440=SM 11442=EX 11445=SM 11446=EX 11447=- 1145E=EX
  1145F=- 114B0=EX 114B1=SM 114B3=EX 114B9=SM 114BA=EX 114BB=SM 114BD=EX 114BE=SM 114BF=EX
  114C1=SM 114C2=EX 114C4=- 115AF=EX 115B0=SM 115B2=EX 115B6=- 115B8=SM 115BC=EX 115BE=SM 115BF=EX
  115C1=- 115DC=EX 115DE=- 11630=SM 11633=EX 1163B=SM 1163D=EX 1163E=SM 1163F=EX 11641=- 116AB=EX
  116AC=SM 116AD=EX 116AE=SM 116B0=EX 116B8=- 1171D=EX 1171E=SM 1171F=EX 11720=- 11722=EX 11726=SM
  11727=EX 1172C=- 1182C=SM 1182F=EX 11838=SM 11839=EX 1183B=- 11930=EX 11931=SM 11936=- 11937=SM
  11939=- 1193B=EX 1193F=PP 11940=SM 11941=PP 11942=SM 11943=EX 11944=- 119D1=SM 119D4=EX 119D8=-
  119DA=EX 119DC=SM 119E0=EX 119E1=- 119E4=SM 119E5=- 11A01=EX 11A0B=- 11A33=EX 11A39=SM 11A3A=PP
  11A3B=EX 11A3F=- 11A47=EX 11A48=- 11A51=EX 11A57=SM 11A59=EX 11A5C=- 11A84=PP 11A8A=EX 11A97=SM
  11A98=EX 11A9A=- 11C2F=SM 11C30=EX 11C37=- 11C38=EX 11C3E=SM 11C3F=EX 11C40=- 11C92=EX 11CA8=-
  11CA9=SM 11CAA=EX 11CB1=SM 11CB2=EX 11CB4=SM 11CB5=EX 11CB7=- 11D31=EX 11D37=- 11D3A=EX 11D3B=-
  11D3C=EX 11D3E=- 11D3F=EX 11D46=PP 11D47=EX 11D48=- 11D8A=SM 11D8F=- 11D90=EX 11D92=- 11D93=SM
  11D95=EX 11D96=SM 11D97=EX 11D98=- 11EF3=EX 11EF5=SM 11EF7=- 11F00=EX 11F02=PP 11F03=SM 11F04=-
  11F34=SM 11F36=EX 11F3B=- 11F3E=SM 11F40=EX 11F43=- 11F5A=EX 11F5B=- 13430=CN 13440=EX 13441=-
  13447=EX 13456=- 1611E=EX 1612A=SM 1612D=EX 16130=- 16AF0=EX 16AF5=- 16B30=EX 16B37=- 16D63=V
  16D64=- 16D67=V 16D6B=- 16F4F=EX 16F50=- 16F51=SM 16F88=- 16F8F=EX 16F93=- 16FE4=EX 16FE5=-
  16FF0=EX 16FF2=- 1BC9D=EX 1BC9F=- 1BCA0=CN 1BCA4=- 1CF00=EX 1CF2E=- 1CF30=EX 1CF47=- 1D165=EX
  1D16A=- 1D16D=EX 1D173=CN 1D17B=EX 1D183=- 1D185=EX 1D18C=- 1D1AA=EX 1D1AE=- 1D242=EX 1D245=-
  1DA00=EX 1DA37=- 1DA3B=EX 1DA6D=- 1DA75=EX 1DA76=- 1DA84=EX 1DA85=- 1DA9B=EX 1DAA0=- 1DAA1=EX
  1DAB0=- 1E000=EX 1E007=- 1E008=EX 1E019=- 1E01B=EX 1E022=- 1E023=EX 1E025=- 1E026=EX 1E02B=-
  1E08F=EX 1E090=- 1E130=EX 1E137=- 1E2AE=EX 1E2AF=- 1E2EC=EX 1E2F0=- 1E4EC=EX 1E4F0=- 1E5EE=EX
  1E5F0=- 1E8D0=EX 1E8D7=- 1E944=EX 1E94B=- 1F1E6=RI 1F200=- 1F3FB=EX 1F400=- E0000=CN E0020=EX
  E0080=CN E0100=EX E01F0=CN E1000=-"

/-- The stretches of characters that break alike. -/
def runs : Runs String := Runs.ofText id table

/-- The characters with this code. -/
def ranges (code : String) : Ranges := runs.rangesWhere (· == code)

end GraphemeBreak
end Unicode
end RecordQuery
